import ChatFlow.Agent
import ChatFlow.Answer
import ChatFlow.Bot
import ChatFlow.Branching
import ChatFlow.Channel
import ChatFlow.Dispatch
import ChatFlow.Inbox
import ChatFlow.Logging
import ChatFlow.Registry
import ChatFlow.Schema.Number
import ChatFlow.Service
import ChatFlow.Settings
import ChatFlow.Step.Action
import ChatFlow.Step.Conditions
import ChatFlow.Step.Jump
import ChatFlow.Step.Question
import ChatFlow.Step.Request
import ChatFlow.Store
import ChatFlow.Template
import ChatFlow.Text.Digit
import ChatFlow.Text.Word
import ChatFlow.Workflow.Bundled
import ChatFlow.Text.Lines
import ChatFlow.Proofs.Turn.Work
import ChatFlow.Proofs.Turn.Alike
import ChatFlow.Proofs.Bot.Handle
import ChatFlow.Proofs.Isolation
import ChatFlow.Proofs.Turn.Length
import ChatFlow.Proofs.Turn.Session
import ChatFlow.Proofs.Serialization
import ChatFlow.Proofs.Turn.Waiting
import ChatFlow.Proofs.Bot.Reachable
import ChatFlow.Proofs.Bot.Outcome
import ChatFlow.Proofs.Endpoint.Exchange
import ChatFlow.Proofs.Turn.Request
import ChatFlow.Proofs.Choice.Offer
import ChatFlow.Proofs.Choice.Selection
import ChatFlow.Proofs.Json.Grammar
import ChatFlow.Proofs.Template.Pass
import ChatFlow.Proofs.Template.Written
import ChatFlow.Proofs.Json.Texts
import ChatFlow.Proofs.Template.Body
import ChatFlow.Proofs.Endpoint.Payload
import ChatFlow.Proofs.Bot.Reply
import ChatFlow.Proofs.Turn.Lifetime
import ChatFlow.Proofs.Bot.Lifetime
import ChatFlow.Proofs.Inbox.Elements
import ChatFlow.Proofs.Inbox.Neighbours
import ChatFlow.Proofs.Inbox.Accounting
import ChatFlow.Proofs.Inbox.Faults
import ChatFlow.Proofs.Service.Report
import ChatFlow.Proofs.Turn.Jumping
import ChatFlow.Proofs.Bot.Jumping
import ChatFlow.Proofs.Bot.Answerable
import ChatFlow.Proofs.Bot.Session
import ChatFlow.Proofs.Bot.Activity
import ChatFlow.Proofs.Decimal.Rounding
import ChatFlow.Proofs.Sweeping
import ChatFlow.Proofs.Service.Independence
import ChatFlow.Proofs.Service.Handover
import ChatFlow.Proofs.Store.History
import ChatFlow.Proofs.Store.Listing
import ChatFlow.Proofs.Inbox.Names
import ChatFlow.Proofs.Choice.Acceptance
import ChatFlow.Proofs.Turn.Progress
import ChatFlow.Proofs.Bot.Progress
import ChatFlow.Proofs.Bot.Bundled
import ChatFlow.Proofs.Choice.Variables
import ChatFlow.Proofs.Bot.Attempts
import ChatFlow.Proofs.Turn.Outage
import ChatFlow.Proofs.Bot.Outage
import ChatFlow.Proofs.Registry.History
import ChatFlow.Proofs.Workflow.Loading
import ChatFlow.Proofs.Workflow.Targets
import ChatFlow.Proofs.Template.Fragments
import ChatFlow.Proofs.Template.Dependence
import ChatFlow.Proofs.Bot.Forwarding
import ChatFlow.Proofs.Service.Failing
import ChatFlow.Proofs.Channel.Recording
import ChatFlow.Proofs.Turn.Branching
import ChatFlow.Proofs.Inbox.Course
import ChatFlow.Proofs.Inbox.Stamps

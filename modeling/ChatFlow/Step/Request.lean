import ChatFlow.Step.Target

/-!
# Requests to an endpoint

A request step calls an endpoint and keeps what it answers.
-/

namespace ChatFlow.Step

open Schema

structure Header where
  key : String
  value : String
  deriving DecidableEq, Repr

/-- A variable that receives one field of the answer. -/
structure Mapping where
  variableName : String
  key : String
  deriving DecidableEq, Repr

structure Request where
  url : String
  method : String
  body : Option String
  headers : List Header
  saveResponse : Option Target
  responseMap : List Mapping
  deriving DecidableEq, Repr

def Header.decode : Decoder Header := record fun fields =>
  Header.mk <$> required fields ["key"] string <*> defaulted fields ["value"] "" string

def Mapping.decode : Decoder Mapping := record fun fields =>
  Mapping.mk <$> required fields ["variable"] string <*> required fields ["key"] string

def Request.decode : Decoder Request := record fun fields =>
  Request.mk <$> required fields ["url"] string
    <*> defaulted fields ["method"] "POST" string
    <*> defaulted fields ["body"] none (nullable string)
    <*> defaulted fields ["headers"] [] (list Header.decode)
    <*> defaulted fields ["saveResponse", "save_response"] none (nullable Target.decode)
    <*> defaulted fields ["responseMap", "response_map"] [] (list Mapping.decode)

end ChatFlow.Step

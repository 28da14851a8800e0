import ChatFlow.Proofs.Bot.Outcome
import ChatFlow.Proofs.Bot.Reply
import ChatFlow.Proofs.Turn.Lifetime

/-!
# How long a conversation is

If wrong answers are borne a limited number of times only, a session executes no more than
`Workflow.lifetime` steps from its creation to its end, whatever its customer says
(`within_of_reaches`). Each reply that is judged has been asked for by a step of its own
(`answers_of_tallies`), so there are no more of those either (`conversation_is_finite`).
-/

namespace ChatFlow.Bot

open Step (QuestionData)
open Turn (Within)

variable {κ : Type}

/-! ### Steps -/

theorem steps_live (b : Bot κ) (st : State κ) (lives : String → List Event) (now : Instant)
    (id text name : String) :
    Event.steps (b.live st lives now id text name id) =
      Event.steps ((if (st.registry.live? now id).isSome then lives id else []) ++
        (b.turn st now id text name).events) :=
  b.filterMap_live (fun _ => rfl) st lives now id text name

theorem within_hear (b : Bot κ) (t : Turn κ) (text : String) (past : List Event) {bound : Nat}
    (hcap : 1 ≤ b.rules.maxInvalidAttempts)
    (hlast : ∀ q, b.workflow.question? t.session.waiting = some q →
      (Event.steps (past ++ t.events)).getLast? = some q)
    (ht : Within bound b.workflow b.rules t.session (past ++ t.events)) :
    Within bound b.workflow b.rules (b.hear t text).session (past ++ (b.hear t text).events) := by
  have same {t' : Turn κ} (hs : t'.session = t.session) (hsteps : t'.steps = t.steps) :
      Within bound b.workflow b.rules t'.session (past ++ t'.events) := by
    rw [hs]
    refine ht.congr ?_
    rw [Event.steps_append, Event.steps_append]
    exact congrArg (_ ++ ·) hsteps
  unfold hear
  split
  · rename_i id hp
    have hwait : t.session.waiting.isSome := by
      rw [Option.isSome_iff_exists]
      exact ⟨id, (Option.filter_eq_some_iff.1 hp).1⟩
    cases hq : b.workflow.question? t.session.waiting with
    | some n =>
      rw [Turn.resume_of_some hq]
      exact Turn.within_judge past t n _ text hcap hwait (hlast n hq) ht
    | none => rw [Turn.resume_of_none hq, Turn.lose]; exact same (by simp) (by simp)
  · exact same rfl (Turn.steps_note ..)

theorem within_turn (b : Bot κ) (st : State κ) (now : Instant) (id text name : String)
    (past : List Event) (hcap : 1 ≤ b.rules.maxInvalidAttempts)
    (hlast : ∀ s q, st.registry.find? id = some s → b.workflow.question? s.waiting = some q →
      (Event.steps past).getLast? = some q)
    (hst : ∀ s, st.registry.find? id = some s →
      Within (b.workflow.lifetime b.rules) b.workflow b.rules s past) :
    Within (b.workflow.lifetime b.rules) b.workflow b.rules (b.turn st now id text name).session
      ((if (st.registry.live? now id).isSome then past else []) ++
        (b.turn st now id text name).events) := by
  unfold turn
  cases hl : st.registry.live? now id with
  | none =>
    refine Turn.within_runFrom [] _ _ _ (Session.isCounted_start now id name) rfl (Nat.zero_le _)
      fun n hn => ?_
    have hlt := Workflow.stepsAfter_lt_lifetime (Workflow.mem_of_entry? hn) b.rules now id name
    exact (Nat.zero_add _).symm ▸ hlt
  | some s =>
    obtain ⟨s', hs', rfl⟩ := Option.map_eq_some_iff.1 hl
    have hfind := (Option.filter_eq_some_iff.1 hs').1
    have hnil : past ++ (Turn.start (s'.touch now) st.world).events = past := List.append_nil past
    refine b.within_hear _ text past hcap (fun q hq => ?_) ?_
    · rw [hnil]; exact hlast s' q hfind hq
    · rw [hnil]; exact (hst s' hfind).touch now

theorem within_of_reaches {definition : Json} {name : Option String} {w : Workflow}
    {log : List Log.Entry} (hw : Workflow.ofDefinition definition true name = .ok (w, log))
    {rules : Rules} (hcap : 1 ≤ rules.maxInvalidAttempts) {o : Outside κ} {timeout : Option Rat}
    {st : State κ} {lives : String → List Event} (hr : Reaches ⟨w, rules, o⟩ timeout st lives)
    (c : String) :
    (Event.steps (lives c)).length ≤ w.lifetime rules ∧
      ∀ s, st.registry.find? c = some s → Within (w.lifetime rules) w rules s (lives c) := by
  induction hr generalizing c with
  | start world => exact ⟨Nat.zero_le _, fun s hs => by cases hs⟩
  | @message st lives hr now id text displayName ih =>
    rw [find?_handle]
    by_cases hid : id = c
    · subst hid
      -- A session that waits does so on its last step, for its id finds no other.
      have hlast (s : Session) (q : Node) (hs : st.registry.find? id = some s)
          (hq : w.question? s.waiting = some q) : (Event.steps (lives id)).getLast? = some q := by
        obtain ⟨i, hi⟩ := waiting_of_question? hq
        obtain ⟨q', ha⟩ := (armed_of_reaches hr id s hs).awaits hi
        rw [question?_of_awaits hw ha hi] at hq
        cases hq
        exact ha.lastStep
      have ht := within_turn ⟨w, rules, o⟩ st now id text displayName (lives id) hcap hlast (ih id).2
      have hsteps := steps_live ⟨w, rules, o⟩ st lives now id text displayName
      refine ⟨(ht.congr hsteps).steps, fun s hs => ?_⟩
      rw [if_pos rfl] at hs
      split at hs <;> cases hs
      exact ht.congr hsteps
    · rw [if_neg hid, live, Function.update_of_ne (Ne.symm hid)]
      exact ih c
  | @purge st lives hr now ih =>
    refine ⟨(ih c).1, fun s hs => ?_⟩
    rw [Registry.find?_purge] at hs
    exact (ih c).2 s (Option.filter_eq_some_iff.1 hs).1
  | outside hr world ih => exact ih c

/-! ### Replies -/

/-- Whether a message is accepted as an answer, if it is one: a question waits for it and can judge
it. -/
def verdict? (b : Bot κ) (st : State κ) (now : Instant) (id text : String) : Option Bool := do
  let s ← st.registry.live? now id
  let _ ← s.pending?
  let q ← b.workflow.question? s.waiting
  let d ← (q.read QuestionData.decode).toOption
  (d.question.accepts text).toOption

/-- How many replies were judged in each conversation after one more message: a new session starts
anew. -/
def tally (b : Bot κ) (st : State κ) (replies : String → Nat) (now : Instant)
    (id text : String) : String → Nat :=
  Function.update replies id
    ((if (st.registry.live? now id).isSome then replies id else 0) +
      if (b.verdict? st now id text).isSome then 1 else 0)

/-- The states that a bot can come to, each with what has happened in its conversations and with the
number of replies that were accepted or refused in them. -/
inductive Tallies (b : Bot κ) (timeout : Option Rat) :
    State κ → (String → List Event) → (String → Nat) → Prop
  | start (world : κ) : Tallies b timeout ⟨.empty timeout, world⟩ (fun _ => []) fun _ => 0
  | message {st : State κ} {lives : String → List Event} {replies : String → Nat}
      (ht : Tallies b timeout st lives replies) (now : Instant) (id text name : String) :
      Tallies b timeout (b.handle st now id text name).1 (b.live st lives now id text name)
        (b.tally st replies now id text)
  | purge {st : State κ} {lives : String → List Event} {replies : String → Nat}
      (ht : Tallies b timeout st lives replies) (now : Instant) :
      Tallies b timeout ⟨(st.registry.purge now).2.1, st.world⟩ lives replies
  | outside {st : State κ} {lives : String → List Event} {replies : String → Nat}
      (ht : Tallies b timeout st lives replies) (world : κ) :
      Tallies b timeout ⟨st.registry, world⟩ lives replies

/-- Counting replies takes nothing from what a bot can come to. -/
theorem reaches_iff_exists_tallies {b : Bot κ} {timeout : Option Rat} {st : State κ}
    {lives : String → List Event} :
    Reaches b timeout st lives ↔ ∃ replies, Tallies b timeout st lives replies := by
  constructor
  · intro hr
    induction hr with
    | start world => exact ⟨_, .start world⟩
    | message _ now id text name ih => exact let ⟨_, ht⟩ := ih; ⟨_, ht.message now id text name⟩
    | purge _ now ih => exact ih.imp fun _ ht => ht.purge now
    | outside _ world ih => exact ih.imp fun _ ht => ht.outside world
  · rintro ⟨replies, ht⟩
    induction ht with
    | start world => exact .start world
    | message _ now id text name ih => exact ih.message now id text name
    | purge _ now ih => exact ih.purge now
    | outside _ world ih => exact ih.outside world

variable {b : Bot κ} {st : State κ} {now : Instant} {id text : String}

theorem waiting_of_verdict? (h : (b.verdict? st now id text).isSome) :
    ∃ s, st.registry.live? now id = some s ∧ s.waiting.isSome := by
  unfold verdict? at h
  cases hl : st.registry.live? now id with
  | none => rw [hl] at h; cases h
  | some s =>
    refine ⟨s, rfl, ?_⟩
    cases hp : s.pending? with
    | none => rw [hl] at h; simp [hp] at h
    | some i => rw [(Option.filter_eq_some_iff.1 hp).1]; rfl

theorem not_judged_of_ignores (h : b.Ignores st now id text) (name : String) :
    b.verdict? st now id text = none ∧ ((b.turn st now id text name).session.waiting.isSome →
      ∃ s, st.registry.live? now id = some s ∧ s.waiting.isSome) := by
  obtain ⟨s, hl, hp | ⟨q, f, t', hp, hq, ha⟩⟩ := h
  · refine ⟨by simp [verdict?, hl, hp], fun hw => ⟨s, hl, ?_⟩⟩
    rw [turn, hl] at hw
    simp only [hear, Turn.start, hp] at hw
    exact hw
  · obtain ⟨i, hi⟩ := Option.isSome_iff_exists.1 hp
    refine ⟨?_, fun _ => ⟨s, hl, by rw [(Option.filter_eq_some_iff.1 hi).1]; rfl⟩⟩
    rcases Turn.answer_of_error ha with ⟨hd, -⟩ | ⟨d, hd, hrows, -⟩
    · simp [verdict?, hl, hi, hq, hd, Except.toOption]
    · simp [verdict?, hl, hi, hq, hd, hrows, Except.toOption]

/-- Replies that were judged in a session had each been asked for by a step, and the one that is
waited for was asked for by another. -/
def Answers (s : Session) (replies : Nat) (es : List Event) : Prop :=
  replies ≤ (Event.steps es).length ∧ (s.waiting.isSome → replies < (Event.steps es).length)

/-- A reply that is judged was waited for, so the steps before it are enough for it. -/
theorem tally_le (now : Instant) (text : String) {replies : String → Nat} {past : List Event}
    (hst : ∀ s, st.registry.find? id = some s → Answers s (replies id) past) :
    b.tally st replies now id text id ≤
      (Event.steps (if (st.registry.live? now id).isSome then past else [])).length := by
  rw [tally, Function.update_self]
  by_cases hv : (b.verdict? st now id text).isSome
  · obtain ⟨s, hl, hwait⟩ := waiting_of_verdict? hv
    obtain ⟨s', hs', rfl⟩ := Option.map_eq_some_iff.1 hl
    have hlt := (hst s' (Option.filter_eq_some_iff.1 hs').1).2 hwait
    simp only [hl, hv, Option.isSome_some, if_true]
    exact hlt
  · rw [if_neg hv]
    cases hl : st.registry.live? now id with
    | none => exact Nat.zero_le _
    | some s =>
      obtain ⟨s', hs', rfl⟩ := Option.map_eq_some_iff.1 hl
      exact (hst s' (Option.filter_eq_some_iff.1 hs').1).1

theorem answers_turn (now : Instant) (text name : String) {replies : String → Nat} {past : List Event}
    (hst : ∀ s, st.registry.find? id = some s → Answers s (replies id) past)
    (hlive : (b.turn st now id text name).isLive = true) :
    Answers (b.turn st now id text name).session (b.tally st replies now id text id)
      ((if (st.registry.live? now id).isSome then past else []) ++
        (b.turn st now id text name).events) := by
  have hle := tally_le (b := b) now text hst
  rw [Answers, Event.steps_append, List.length_append]
  refine ⟨Nat.le_trans hle (Nat.le_add_right ..), fun hwait => ?_⟩
  rcases b.turn_cases st now id text name with ⟨-, -, hig, -⟩ | ⟨-, -, hdead⟩ | ⟨-, hclosed⟩
  · -- Nothing was judged, so the question that waits is the one that waited before.
    obtain ⟨hno, hbefore⟩ := not_judged_of_ignores hig name
    obtain ⟨s, hl, hw⟩ := hbefore hwait
    obtain ⟨s', hs', rfl⟩ := Option.map_eq_some_iff.1 hl
    have hlt := (hst s' (Option.filter_eq_some_iff.1 hs').1).2 hw
    rw [tally, Function.update_self, hl, hno]
    exact Nat.lt_of_lt_of_le hlt (Nat.le_add_right ..)
  · rw [hdead] at hlive; cases hlive
  · rcases hclosed with ⟨q, m, hq⟩ | ⟨n, hn⟩ | ht
    · have hpos : 0 < (Event.steps (b.turn st now id text name).events).length :=
        List.length_pos_of_mem (List.mem_of_getLast? hq.lastStep)
      omega
    · rw [hn.isLive] at hlive; cases hlive
    · rw [ht.waiting] at hwait; cases hwait

theorem answers_of_tallies {timeout : Option Rat} {lives : String → List Event}
    {replies : String → Nat} (ht : Tallies b timeout st lives replies) (c : String) (s : Session)
    (hs : st.registry.find? c = some s) : Answers s (replies c) (lives c) := by
  induction ht generalizing c s with
  | start world => cases hs
  | @message st lives replies ht now id text name ih =>
    rw [find?_handle] at hs
    by_cases hid : id = c
    · subst hid
      rw [if_pos rfl] at hs
      split at hs <;> rename_i hlive <;> cases hs
      have ha := answers_turn now text name (ih id) hlive
      rw [Answers, ← steps_live] at ha
      exact ha
    · rw [if_neg hid] at hs
      rw [live, tally, Function.update_of_ne (Ne.symm hid), Function.update_of_ne (Ne.symm hid)]
      exact ih c s hs
  | @purge st lives replies ht now ih =>
    rw [Registry.find?_purge] at hs
    exact ih c s (Option.filter_eq_some_iff.1 hs).1
  | outside ht world ih => exact ih c s hs

/-- Every conversation is finite if wrong answers are borne a limited number of times only. With a
strictly loaded workflow there is a bound on the steps of a session, from its creation to its end,
which hangs on the tree, on the cap on wrong answers and on the jumps that may be taken: one more
than all jumps together, times the number of nodes, times the number of times that a question is
asked. Whatever a customer says and whatever fails in the world outside, no session executes more
steps; and when that many replies were accepted or refused, its session is gone or waits on nothing. -/
theorem conversation_is_finite {definition : Json} {name : Option String} {w : Workflow}
    {log : List Log.Entry} (hw : Workflow.ofDefinition definition true name = .ok (w, log))
    (maxJumps : Int) {cap : Int} (hcap : 1 ≤ cap) :
    ∃ bound : Nat, (∀ button, w.lifetime ⟨maxJumps, cap, button⟩ = bound) ∧
      ∀ (κ : Type) (button : String) (o : Outside κ) (timeout : Option Rat) (st : State κ)
        (lives : String → List Event) (replies : String → Nat),
        Tallies ⟨w, ⟨maxJumps, cap, button⟩, o⟩ timeout st lives replies → ∀ c,
          (Event.steps (lives c)).length ≤ bound ∧
          (bound ≤ replies c → ∀ s, st.registry.find? c = some s → s.waiting = none) := by
  refine ⟨w.lifetime ⟨maxJumps, cap, Rules.standardListButton⟩, fun _ => rfl, ?_⟩
  intro κ button o timeout st lives replies ht c
  have hsteps : (Event.steps (lives c)).length ≤ w.lifetime ⟨maxJumps, cap, button⟩ :=
    (within_of_reaches hw hcap (reaches_iff_exists_tallies.2 ⟨replies, ht⟩) c).1
  refine ⟨hsteps, fun hmany s hs => ?_⟩
  cases hwait : s.waiting with
  | none => rfl
  | some i =>
    have hlt := (answers_of_tallies ht c s hs).2 (by rw [hwait]; rfl)
    have hmany' : w.lifetime ⟨maxJumps, cap, button⟩ ≤ replies c := hmany
    omega

/-- A choice between two options that bears one wrong answer: four steps at most, and after a greeting
and a wrong answer two of them have been executed. -/
theorem conversation_is_finite_after_wrong_answer :
    let question : Json := .obj [("type", .str "multiple"), ("text", .str "Go on?"),
      ("options", .arr [.str "yes", .str "no"])]
    let definition : Json := .obj [("type", .str "Trigger"), ("childs", .arr [
      .obj [("id", .int 1), ("type", .str "QuestionStep"), ("data", .obj [("question", question)])]])]
    let ask : Node := ⟨some "1", .question, [("question", question)], []⟩
    let w : Workflow := ⟨⟨none, .other "Trigger", [], [ask]⟩, [("1", ask)], "choice", fun h => by
      cases List.mem_singleton.1 (Assoc.mem_of_get? h)
      exact Node.mem_preorder_of_child List.mem_cons_self (Node.mem_preorder_self _)⟩
    let o : Outside Unit := ⟨fun _ _ => (.ok (), [], ()), fun _ _ => (none, ()), fun _ => none⟩
    let b : Bot Unit := ⟨w, ⟨3, 1, Rules.standardListButton⟩, o⟩
    let st := (b.handle ⟨.empty none, ()⟩ (.ofInt 0) "a" "hello" "Ada").1
    let lives := b.live ⟨.empty none, ()⟩ (fun _ => []) (.ofInt 0) "a" "hello" "Ada"
    let later := b.live st lives (.ofInt 5) "a" "maybe" "Ada"
    Workflow.ofDefinition definition true (some "choice") = .ok (w, w.report) ∧
      w.lifetime b.rules = 4 ∧ Event.steps (later "a") = [ask, ask] ∧
      b.verdict? st (.ofInt 5) "a" "maybe" = some false ∧
      (Event.steps (later "a")).length ≤ 4 := by
  intro question definition ask w o b st lives later
  have hw : Workflow.ofDefinition definition true (some "choice") = .ok (w, w.report) := rfl
  have hask : ask ∈ w.root.preorder :=
    Node.mem_preorder_of_child List.mem_cons_self (Node.mem_preorder_self _)
  let first := (Turn.start (Session.start (.ofInt 0) "a" "Ada") ()).begin ask
  let s : Session := { Session.start (.ofInt 0) "a" "Ada" with waiting := some "1" }
  have hfirst : b.turn ⟨.empty none, ()⟩ (.ofInt 0) "a" "hello" "Ada" =
      (first.execute o w b.rules ask).2 :=
    Turn.run_of_none (t := Turn.start (Session.start (.ofInt 0) "a" "Ada") ()) hask rfl
  have hs : st.registry.find? "a" = some s := by rw [find?_handle, if_pos rfl, hfirst]; rfl
  have hl : st.registry.live? (.ofInt 5) "a" = some (s.touch (.ofInt 5)) := by
    rw [Registry.live?, hs, Option.filter_some, if_pos]
    · rfl
    · rw [Registry.isExpired, idleTimeout_handle]; rfl
  let again := ((Turn.start (s.touch (.ofInt 5)) st.world).answer b.rules ask "maybe").2.begin ask
  have hagain : b.turn st (.ofInt 5) "a" "maybe" "Ada" = (again.execute o w b.rules ask).2 := by
    rw [turn, hl]
    show (Turn.start (s.touch (.ofInt 5)) st.world).resume o w b.rules "maybe" = _
    exact (Turn.resume_of_some (n := ask) rfl).trans
      ((Turn.judge_of_some (m := ask) hask rfl).trans (Turn.run_of_none hask rfl))
  have ht : Tallies b none _ later _ :=
    ((Tallies.start ()).message (.ofInt 0) "a" "hello" "Ada").message (.ofInt 5) "a" "maybe" "Ada"
  obtain ⟨bound, hbound, hall⟩ := conversation_is_finite hw 3 (show (1 : Int) ≤ 1 by decide)
  have hlifetime : w.lifetime b.rules = 4 := by decide +kernel
  have hpast : Event.steps (lives "a") = [ask] := by rw [steps_live, hfirst]; rfl
  have hsteps : Event.steps (later "a") = [ask, ask] := by
    rw [steps_live, hl, hagain, Option.isSome_some, if_pos rfl, Event.steps_append, hpast]
    rfl
  refine ⟨hw, hlifetime, hsteps, ?_, ?_⟩
  · rw [verdict?, hl]; rfl
  · rw [← hlifetime, hbound]
    exact (hall Unit _ o none _ later _ ht "a").1

end ChatFlow.Bot

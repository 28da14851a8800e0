import ChatFlow.Proofs.Bot.Lifetime
import ChatFlow.Proofs.Bot.Session
import ChatFlow.Proofs.Turn.Jumping

/-!
# How often a jump is taken

In whatever state a bot comes to, the counters of a session say how often its jumps were executed
since it was created (`recorded_of_reaches`). With a strictly loaded workflow whose jumps all have
ids, the counter under the id of a jump is that jump's alone, and tells how often it may still be
taken (`jump_is_counted`).
-/

namespace ChatFlow

open Step (Jump)
open Turn (Recorded Underway)

/-! ### Counters and ids -/

section Ids

variable {definition : Json} {name : Option String} {w : Workflow} {log : List Log.Entry}
  {r : Rules} {j n : Node} {d : Jump} {id : String}

theorem Workflow.eq_of_id (hw : ofDefinition definition true name = .ok (w, log))
    (hj : j ∈ w.root.preorder) (hn : n ∈ w.root.preorder) (hid : j.id = some id)
    (hnid : n.id = some id) : n = j :=
  Option.some.inj ((lookup?_of_mem hw hn hnid).symm.trans (lookup?_of_mem hw hj hid))

/-- If no jump goes without an id, only one step is counted under the id of a jump. -/
theorem Node.jumpsAs_iff (hw : Workflow.ofDefinition definition true name = .ok (w, log))
    (hids : ∀ n ∈ w.root.preorder, n.kind = .jump → n.id.isSome)
    (hj : j ∈ w.root.preorder) (hk : j.kind = .jump) (hd : j.read Jump.decode = .ok d)
    (hid : j.id = some id) (hn : n ∈ w.root.preorder) :
    n.jumpsAs r id = true ↔ n.id = some id := by
  constructor
  · intro h
    have hjump : n.kind = .jump := by
      by_contra hne
      rw [jumpsAs_of_ne_jump hne] at h; cases h
    obtain ⟨i, hi⟩ := Option.isSome_iff_exists.1 (hids n hn hjump)
    have hlabel : n.label = id := by
      have := (Bool.and_eq_true_iff.1 h).1
      exact of_decide_eq_true this
    rw [label, hi] at hlabel
    rw [hi]
    exact congrArg some hlabel
  · intro h
    obtain rfl := Workflow.eq_of_id hw hj hn hid h
    rw [jumpsAs_of_read hk hd, label, h]
    exact decide_eq_true rfl

theorem Turn.Recorded.jumps_eq_executions {s : Session} {es : List Event} (h : Recorded w r s es)
    (hw : Workflow.ofDefinition definition true name = .ok (w, log))
    (hids : ∀ n ∈ w.root.preorder, n.kind = .jump → n.id.isSome)
    (hj : j ∈ w.root.preorder) (hk : j.kind = .jump) (hd : j.read Jump.decode = .ok d)
    (hid : j.id = some id) : s.jumps id = Event.executions id es := by
  rw [h.jumps id, Event.jumps, Event.executions]
  refine congrArg _ (List.countP_congr fun n hn => ?_)
  rw [Node.jumpsAs_iff hw hids hj hk hd hid (h.mem n hn), decide_eq_true_iff]

end Ids

/-- What a jump that can be read does: it counts itself and, within its limit, finds its target. -/
theorem Turn.pass_jump {κ : Type} {o : Outside κ} {w : Workflow} {r : Rules} {j : Node} {d : Jump}
    {id : String} (hk : j.kind = .jump) (hd : j.read Jump.decode = .ok d) (hid : j.id = some id)
    (t : Turn κ) :
    (pass o w r (some j, t)).1 =
        (if t.session.jumps id + 1 ≤ d.limit r.maxJumps then w.lookup? d.target else none) ∧
      (pass o w r (some j, t)).2.session = { t.session with
        jumpCounts := t.session.jumpCounts.put id (t.session.jumps id + 1) } := by
  have hlabel : j.label = id := by rw [Node.label, hid]; rfl
  obtain ⟨hnext, hsession⟩ := jump_of_read hd (t.begin j) w r
  rw [hlabel] at hnext hsession
  have hx : (t.begin j).execute o w r j = (t.begin j).jump w r j := by rw [execute, hk]
  rw [pass, hx]
  split <;> rename_i heq <;> rw [heq] at hnext hsession
  · cases hnext
  · exact ⟨Except.ok.inj hnext, hsession⟩

theorem Turn.jumps_pass_of_not {κ : Type} {o : Outside κ} {w : Workflow} {r : Rules} {n : Node}
    {id : String} (hn : n.jumpsAs r id = false) (t : Turn κ) :
    (pass o w r (some n, t)).2.session.jumps id = t.session.jumps id := by
  have h := jumps_execute (t.begin n) o w r n id
  rw [hn] at h
  rw [pass]
  split <;> rename_i heq <;> rw [heq] at h <;> exact h.trans (Int.add_zero _)

namespace Bot

variable {κ : Type}

/-! ### Messages -/

theorem jumpCounts_opening (b : Bot κ) (st : State κ) (now : Instant) (id text name : String) :
    (b.opening st now id text name).2.session.jumpCounts =
      ((st.registry.live? now id).map (·.jumpCounts)).getD [] := by
  rcases b.session_opening st now id text name with ⟨hl, hs⟩ | ⟨s, hl, hs⟩
  · rw [hs, hl]; rfl
  · rw [hl]
    rcases hs with ⟨-, hs⟩ | ⟨q, -, hs, -⟩ <;> rw [hs]
    · rfl
    · exact Turn.jumpCounts_answer ..

theorem underway_opening (b : Bot κ) (st : State κ) (now : Instant) (id text name : String)
    (past : List Event)
    (hst : ∀ s, st.registry.find? id = some s → Recorded b.workflow b.rules s past) :
    Underway b.workflow b.rules (if (st.registry.live? now id).isSome then past else [])
      (b.opening st now id text name) := by
  obtain ⟨hmem, -⟩ := exists_turn_eq_runFrom b st now id text name
  have hsteps := (opening_cases b st now id text name).1
  have hcounts := jumpCounts_opening b st now id text name
  refine ⟨hmem, ?_⟩
  cases hl : st.registry.live? now id with
  | none =>
    rw [hl] at hcounts
    exact .fresh hcounts hsteps
  | some s =>
    rw [hl] at hcounts
    obtain ⟨s', hs', rfl⟩ := Option.map_eq_some_iff.1 hl
    refine (hst s' (Option.filter_eq_some_iff.1 hs').1).congr hcounts ?_
    rw [Option.isSome_some, if_pos rfl, Event.steps_append]
    exact (congrArg (_ ++ ·) hsteps).trans (List.append_nil _)

theorem recorded_turn (b : Bot κ) (st : State κ) (now : Instant) (id text name : String)
    (past : List Event)
    (hst : ∀ s, st.registry.find? id = some s → Recorded b.workflow b.rules s past) :
    Recorded b.workflow b.rules (b.turn st now id text name).session
      ((if (st.registry.live? now id).isSome then past else []) ++
        (b.turn st now id text name).events) := by
  obtain ⟨k, hk⟩ := exists_iterate_pass_eq_turn b st now id text name
  have h := (underway_opening b st now id text name past hst).iterate (o := b.outside) k
  rw [hk] at h
  exact h.recorded

theorem recorded_of_reaches {b : Bot κ} {timeout : Option Rat} {st : State κ}
    {lives : String → List Event} (hr : Reaches b timeout st lives) (c : String) (s : Session)
    (hs : st.registry.find? c = some s) : Recorded b.workflow b.rules s (lives c) := by
  refine hr.forall_session (P := Recorded b.workflow b.rules) ?_ hs
  intro st lives now id text name hst _
  have ht := recorded_turn b st now id text name (lives id) hst
  exact ht.congr rfl (steps_live b st lives now id text name)

/-- Jumps are counted over the whole life of a session. With a strictly loaded workflow whose jumps
all have ids, in every state that a bot can come to, the counter under the id of a jump that can be
read says how often this jump was executed since the session was created. It says so before each step
of each message: the jump counts one more and goes on to its target if it is now within its limit, and
to no step if it is not; any other step leaves the counter. A reply is judged on the counters of the
stored session and leaves them, and a session that is created has none; the messages of other
conversations and the sweeps leave the session, unless a sweep drops it. -/
theorem jump_is_counted {definition : Json} {name : Option String} {w : Workflow}
    {log : List Log.Entry} (hw : Workflow.ofDefinition definition true name = .ok (w, log))
    (hids : ∀ n ∈ w.root.preorder, n.kind = .jump → n.id.isSome)
    {j : Node} (hj : j ∈ w.root.preorder) (hk : j.kind = .jump)
    {d : Jump} (hd : j.read Jump.decode = .ok d)
    {rules : Rules} {o : Outside κ} {timeout : Option Rat} {st : State κ}
    {lives : String → List Event} (hr : Reaches ⟨w, rules, o⟩ timeout st lives) (c : String) :
    ∃ id, j.id = some id ∧
      (∀ s, st.registry.find? c = some s →
        s.jumps id = Event.executions id (lives c) ∧
        ∀ n ∈ Event.steps (lives c), n.id = some id → n = j) ∧
      (∀ now text displayName,
        let past := if (st.registry.live? now c).isSome then lives c else []
        let passed (k : Nat) := (Turn.pass o w rules)^[k]
          (opening ⟨w, rules, o⟩ st now c text displayName)
        (st.registry.live? now c = none → (passed 0).2.session.jumpCounts = []) ∧
        (∀ s, st.registry.find? c = some s → (st.registry.live? now c).isSome →
          (passed 0).2.session.jumpCounts = s.jumpCounts) ∧
        (∃ k, passed k = (none, turn ⟨w, rules, o⟩ st now c text displayName)) ∧
        ∀ k n t, passed k = (some n, t) →
          t.session.jumps id = Event.executions id (past ++ t.events) ∧
          (n = j →
            (passed (k + 1)).1 = (if t.session.jumps id + 1 ≤ d.limit rules.maxJumps then
              w.lookup? d.target else none) ∧
            (passed (k + 1)).2.session = { t.session with
              jumpCounts := t.session.jumpCounts.put id (t.session.jumps id + 1) }) ∧
          (n ≠ j → (passed (k + 1)).2.session.jumps id = t.session.jumps id)) ∧
      (∀ now id' text displayName, id' ≠ c →
        (handle ⟨w, rules, o⟩ st now id' text displayName).1.registry.find? c =
          st.registry.find? c) ∧
      ∀ now s, (st.registry.purge now).2.1.find? c = some s → st.registry.find? c = some s := by
  obtain ⟨id, hid⟩ := Option.isSome_iff_exists.1 (hids j hj hk)
  have hstored (s : Session) (hs : st.registry.find? c = some s) :
      Recorded w rules s (lives c) := recorded_of_reaches hr c s hs
  refine ⟨id, hid, fun s hs => ⟨?_, fun n hn hnid => ?_⟩, fun now text displayName => ?_, ?_, ?_⟩
  · exact (hstored s hs).jumps_eq_executions hw hids hj hk hd hid
  · exact Workflow.eq_of_id hw hj ((hstored s hs).mem n hn) hid hnid
  · intro past passed
    have hfirst := jumpCounts_opening ⟨w, rules, o⟩ st now c text displayName
    refine ⟨fun hl => ?_, fun s hs hl => ?_, exists_iterate_pass_eq_turn ⟨w, rules, o⟩ ..,
      fun k n t hpass => ?_⟩
    · rw [hl] at hfirst
      exact hfirst
    · obtain ⟨s', hl⟩ := Option.isSome_iff_exists.1 hl
      rw [hl] at hfirst
      obtain ⟨s'', hs'', rfl⟩ := Option.map_eq_some_iff.1 hl
      obtain rfl : s'' = s := Option.some.inj ((Option.filter_eq_some_iff.1 hs'').1.symm.trans hs)
      exact hfirst
    have hnow : Underway w rules past (some n, t) :=
      hpass ▸ (underway_opening ⟨w, rules, o⟩ st now c text displayName _ hstored).iterate k
    have hnext : passed (k + 1) = Turn.pass o w rules (some n, t) := by
      rw [← hpass]; exact Function.iterate_succ_apply' ..
    rw [hnext]
    refine ⟨hnow.recorded.jumps_eq_executions hw hids hj hk hd hid, ?_, fun hne => ?_⟩
    · rintro rfl
      exact Turn.pass_jump hk hd hid t
    · refine Turn.jumps_pass_of_not (Bool.eq_false_iff.2 fun hn => hne ?_) t
      exact Workflow.eq_of_id hw hj (hnow.mem n rfl) hid
        ((Node.jumpsAs_iff hw hids hj hk hd hid (hnow.mem n rfl)).1 hn)
  · intro now id' text displayName hne
    rw [find?_handle, if_neg hne]
  · intro now s hs
    rw [Registry.find?_purge] at hs
    exact (Option.filter_eq_some_iff.1 hs).1

/-- A jump to itself that may be taken once: it is executed twice and then stops, and stays counted
twice when the next message comes. -/
theorem jump_is_counted_to_itself :
    let back : Node := ⟨some "1", .jump, [("stepId", .str "1"), ("maxJumps", .int 1)], []⟩
    let definition : Json := .obj [("type", .str "Trigger"), ("childs", .arr [
      .obj [("id", .int 1), ("type", .str "JumpStep"),
        ("data", .obj [("stepId", .str "1"), ("maxJumps", .int 1)])]])]
    let w : Workflow := ⟨⟨none, .other "Trigger", [], [back]⟩, [("1", back)], "loop", fun h => by
      cases List.mem_singleton.1 (Assoc.mem_of_get? h)
      exact Node.mem_preorder_of_child List.mem_cons_self (Node.mem_preorder_self _)⟩
    let o : Outside Unit := ⟨fun _ _ => (.ok (), [], ()), fun _ _ => (none, ()), fun _ => none⟩
    let b : Bot Unit := ⟨w, ⟨50, 3, Rules.standardListButton⟩, o⟩
    let st := (b.handle ⟨.empty none, ()⟩ (.ofInt 0) "a" "hello" "Ada").1
    let lives := b.live ⟨.empty none, ()⟩ (fun _ => []) (.ofInt 0) "a" "hello" "Ada"
    let passed (k : Nat) := (Turn.pass o w b.rules)^[k]
      (b.opening ⟨.empty none, ()⟩ (.ofInt 0) "a" "hello" "Ada")
    Workflow.ofDefinition definition true (some "loop") = .ok (w, w.report) ∧
      (passed 1).1 = some back ∧ (passed 2).1 = none ∧
      ∃ s, st.registry.find? "a" = some s ∧ s.jumps "1" = 2 ∧
        Event.executions "1" (lives "a") = 2 ∧
        (b.opening st (.ofInt 5) "a" "hello" "Ada").2.session.jumpCounts = [("1", 2)] := by
  intro back definition w o b st lives passed
  have hw : Workflow.ofDefinition definition true (some "loop") = .ok (w, w.report) := rfl
  have hids : ∀ n ∈ w.root.preorder, n.kind = .jump → n.id.isSome := by decide +kernel
  have hback : back ∈ w.root.preorder :=
    Node.mem_preorder_of_child List.mem_cons_self (Node.mem_preorder_self _)
  have counted {st : State Unit} {lives : String → List Event} (hr : Reaches b none st lives) :=
    jump_is_counted hw hids hback rfl (d := ⟨some "1", some 1⟩) rfl hr "a"
  let first := (Turn.start (Session.start (.ofInt 0) "a" "Ada") ()).begin back
  let second := ((first.jump w b.rules back).2).begin back
  have hturn : b.turn ⟨.empty none, ()⟩ (.ofInt 0) "a" "hello" "Ada" =
      (second.jump w b.rules back).2 :=
    (Turn.run_of_some (t := Turn.start (Session.start (.ofInt 0) "a" "Ada") ()) (m := back) hback
      rfl).trans (Turn.run_of_none hback rfl)
  let s : Session := { Session.start (.ofInt 0) "a" "Ada" with jumpCounts := [("1", 2)] }
  have hs : st.registry.find? "a" = some s := by rw [find?_handle, if_pos rfl, hturn]; rfl
  have hl : st.registry.live? (.ofInt 5) "a" = some (s.touch (.ofInt 5)) := by
    rw [Registry.live?, hs, Option.filter_some, if_pos]
    · rfl
    · rw [Registry.isExpired, idleTimeout_handle]; rfl
  obtain ⟨id, hid, -, hmessage, -⟩ := counted (Reaches.start ())
  obtain rfl : "1" = id := Option.some.inj hid
  obtain ⟨-, -, -, hsteps⟩ := hmessage (.ofInt 0) "hello" "Ada"
  have hgoes : (passed 1).1 = some back := ((hsteps 0 back _ rfl).2.1 rfl).1
  have hstops : (passed 2).1 = none := ((hsteps 1 back _ (Prod.ext hgoes rfl)).2.1 rfl).1
  obtain ⟨id, hid, hstored, hnext, -⟩ :=
    counted (Reaches.message (.start ()) (.ofInt 0) "a" "hello" "Ada")
  obtain rfl : "1" = id := Option.some.inj hid
  refine ⟨hw, hgoes, hstops, s, hs, rfl, ?_, ?_⟩
  · exact Int.ofNat.inj ((hstored s hs).1.symm)
  · exact (hnext (.ofInt 5) "hello" "Ada").2.1 s hs (by rw [hl]; rfl)

end Bot

end ChatFlow

import ChatFlow.Proofs.Bot.Progress
import ChatFlow.Workflow.Bundled

/-!
# The one dead end of the bundled workflow

All steps of the bundled workflow lead on, which is checked by evaluation (`bundled_leadsOn`), and its
only jump lets the customer pick an event again, three times in a session. So whoever talks to the bot
is either asked something or done, until a fourth answer to the event list is wrong: then the jump
stops, and the session stays and waits on nothing (`bundled_waits_until_retries_used`).
-/

namespace ChatFlow

variable {w : Workflow} {log : List Log.Entry} {r : Rules}

/-! ### What can be read off the workflow -/

theorem Workflow.eq_of_bundled {α : Type} {f : Workflow → α} {a : α} (hw : bundled = .ok (w, log))
    (h : bundled.toOption.map (fun p => f p.1) = some a) : f w = a := by
  rw [hw] at h
  exact Option.some.inj h

theorem Workflow.exists_bundled : ∃ w log, bundled = .ok (w, log) := by
  have h : bundled.toOption.isSome := by decide +kernel
  cases hb : bundled with
  | error e => rw [hb] at h; cases h
  | ok p => exact ⟨p.1, p.2, rfl⟩

theorem Workflow.jumps_bundled (hw : bundled = .ok (w, log)) (r : Rules) :
    w.jumps r = [("36", 3)] :=
  eq_of_bundled (f := fun w => w.jumps r) hw rfl

theorem Workflow.bundled_leadsOn (hw : bundled = .ok (w, log)) (r : Rules) : w.LeadsOn r where
  entry := eq_of_bundled (f := fun w => w.entry?.isSome) hw (by decide +kernel)
  nodes := List.all_eq_true.1
    (eq_of_bundled (f := fun w => w.root.preorder.all (·.leadsOn w)) hw (by decide +kernel))
  jumps := by
    rw [jumps_bundled hw]
    exact List.nodup_singleton _

theorem Workflow.ids_bundled (hw : bundled = .ok (w, log)) :
    ∀ n ∈ w.root.preorder, n.kind = .jump → n.id.isSome := by
  have h := List.all_eq_true.1 (eq_of_bundled
    (f := fun w => w.root.preorder.all fun n => n.kind != .jump || n.id.isSome) hw
    (by decide +kernel))
  intro n hn hk
  simpa [hk] using h n hn

theorem Workflow.exists_retry (hw : bundled = .ok (w, log)) :
    ∃ j d, j ∈ w.root.preorder ∧ j.kind = .jump ∧ j.read Step.Jump.decode = .ok d ∧
      j.id = some "36" := by
  have hmem : (("36", 3) : String × Int) ∈ w.jumps ⟨0, 0, ""⟩ := by
    rw [jumps_bundled hw]
    exact List.mem_singleton_self _
  obtain ⟨j, hj, hlimit⟩ := List.mem_filterMap.1 hmem
  obtain ⟨limit, hlimit, hlabel⟩ := Option.map_eq_some_iff.1 hlimit
  have hid : j.label = "36" := congrArg (·.1) hlabel
  obtain ⟨id, hsome⟩ : ∃ id, j.id = some id := by
    refine Option.isSome_iff_exists.1 (ids_bundled hw j hj ?_)
    by_contra hk
    rw [Node.jumpLimit?, if_neg hk] at hlimit
    cases hlimit
  rw [Node.label, hsome] at hid
  cases hid
  rw [Node.jumpLimit?] at hlimit
  split at hlimit
  · rename_i hk
    split at hlimit
    · rename_i d hd
      exact ⟨j, d, hj, hk, hd, hsome⟩
    · cases hlimit
  · cases hlimit

namespace Bot

variable {κ : Type} {o : Outside κ}

/-! ### Talking to the bot -/

/-- The state with one session and no other, or with none at all. -/
def alone (world : κ) (s : Option Session) : State κ :=
  ⟨(s.map (Registry.empty none).store).getD (.empty none), world⟩

theorem live?_alone {st : State κ} {id : String} (ht : st.registry.idleTimeout = none)
    (now : Instant) : (alone st.world (st.registry.find? id)).registry.live? now id =
      st.registry.live? now id := by
  refine Registry.live?_congr ?_ ?_ now
  · rw [ht, alone]
    cases st.registry.find? id <;> rfl
  · rw [alone]
    cases hs : st.registry.find? id with
    | none => rfl
    | some s =>
      have hid : s.id = id := Registry.id_of_find? hs
      simp [hid]

theorem iterate_pass_of_le {p : Option Node × Turn κ} {m k : Nat}
    (h : ((Turn.pass o w r)^[m] p).1 = none) (hle : m ≤ k) :
    (Turn.pass o w r)^[k] p = (Turn.pass o w r)^[m] p := by
  obtain ⟨j, rfl⟩ := Nat.exists_eq_add_of_le' hle
  rw [Function.iterate_add_apply]
  refine Function.iterate_fixed ?_ j
  rw [show (Turn.pass o w r)^[m] p = (none, ((Turn.pass o w r)^[m] p).2) from Prod.ext h rfl]
  rfl

/-- A turn can be evaluated by as many passes as are enough. -/
theorem turn_of_passes (b : Bot κ) (st : State κ) (now : Instant) (id text name : String) (m : Nat)
    (h : ((Turn.pass b.outside b.workflow b.rules)^[m] (b.opening st now id text name)).1 = none) :
    b.turn st now id text name =
      ((Turn.pass b.outside b.workflow b.rules)^[m] (b.opening st now id text name)).2 := by
  obtain ⟨k, hk⟩ := b.exists_iterate_pass_eq_turn st now id text name
  rcases Nat.le_total m k with hle | hle
  · rw [← iterate_pass_of_le h hle, hk]
  · rw [iterate_pass_of_le (by rw [hk]) hle, hk]

/-- The session that a message leaves, evaluated from the one that it finds, if the conversation goes
on and no more passes are needed than these. -/
def sessionAfter? (b : Bot κ) (world : κ) (m : Nat) (id name : String) (s : Option Session)
    (text : String) : Option Session :=
  let p := (Turn.pass b.outside b.workflow b.rules)^[m]
    (b.opening (alone world s) (.ofInt 0) id text name)
  if p.1.isNone && p.2.isLive then some p.2.session else none

theorem find?_handle_of_sessionAfter? {b : Bot κ} {st : State κ} {m : Nat} {id text name : String}
    {s : Session} (ht : st.registry.idleTimeout = none)
    (h : b.sessionAfter? st.world m id name (st.registry.find? id) text = some s) :
    (b.handle st (.ofInt 0) id text name).1.registry.find? id = some s := by
  have hopening : b.opening (alone st.world (st.registry.find? id)) (.ofInt 0) id text name =
      b.opening st (.ofInt 0) id text name := by
    rw [opening, opening, live?_alone ht]
    rfl
  rw [sessionAfter?, hopening] at h
  split at h
  · rename_i hdone
    simp only [Bool.and_eq_true, Option.isNone_iff_eq_none] at hdone
    rw [find?_handle, if_pos rfl, turn_of_passes b st _ id text name m hdone.1, if_pos hdone.2, h]
  · cases h

/-- The state after a customer has sent some messages, one by one. -/
def talk (b : Bot κ) (id name : String) (st : State κ) (texts : List String) : State κ :=
  texts.foldl (fun st text => (b.handle st (.ofInt 0) id text name).1) st

theorem exists_reaches_talk (b : Bot κ) (id name : String) {timeout : Option Rat} {st : State κ}
    {lives : String → List Event} (hr : Reaches b timeout st lives) (texts : List String) :
    ∃ lives', Reaches b timeout (b.talk id name st texts) lives' := by
  induction texts generalizing st lives with
  | nil => exact ⟨lives, hr⟩
  | cons text texts ih => exact ih (hr.message (.ofInt 0) id text name)

theorem find?_talk {b : Bot Unit} {st : State Unit} {m : Nat} {id name : String} {texts : List String}
    {s : Option Session} (ht : st.registry.idleTimeout = none)
    (h : texts.foldlM (fun s text => (b.sessionAfter? () m id name s text).map some)
      (st.registry.find? id) = some s) :
    (b.talk id name st texts).registry.find? id = s := by
  induction texts generalizing st with
  | nil => exact Option.some.inj h
  | cons text texts ih =>
    rw [List.foldlM_cons] at h
    obtain ⟨s', hs', hrest⟩ := Option.bind_eq_some_iff.1 h
    obtain ⟨s', hafter, rfl⟩ := Option.map_eq_some_iff.1 hs'
    have hnext := find?_handle_of_sessionAfter? ht hafter
    exact ih (by rw [idleTimeout_handle, ht]) (by rwa [hnext])

/-- A world that accepts every message and answers no request. -/
def quiet : Outside Unit := ⟨fun _ _ => (.ok (), [], ()), fun _ _ => (none, ()), fun _ => none⟩

theorem acceptsAll_quiet : quiet.AcceptsAll := fun _ _ => rfl

/-- The question that a customer of the bundled workflow is left with can be evaluated. -/
theorem waiting_talk_of_bundled (hw : Workflow.bundled = .ok (w, log)) {r : Rules} {id name : String}
    {texts : List String} {waiting : Option String}
    (h : Workflow.bundled.toOption.map (fun p => (texts.foldlM
      (fun s text => (sessionAfter? ⟨p.1, r, quiet⟩ () 4 id name s text).map some)
      none).map (·.map (·.waiting))) = some (some (some waiting))) :
    ∃ s, (talk ⟨w, r, quiet⟩ id name ⟨.empty none, ()⟩ texts).registry.find? id = some s ∧
      s.waiting = waiting := by
  obtain ⟨s, hs, hwaiting⟩ := Option.map_eq_some_iff.1 (Workflow.eq_of_bundled (f := fun w =>
    (texts.foldlM (fun s text => (sessionAfter? ⟨w, r, quiet⟩ () 4 id name s text).map some)
      none).map (·.map (·.waiting))) hw h)
  obtain ⟨s, rfl, hwaiting⟩ := Option.map_eq_some_iff.1 hwaiting
  exact ⟨s, find?_talk rfl hs, Option.some.inj hwaiting⟩

/-! ### Who is kept waiting -/

/-- With the bundled workflow, and as long as every message is accepted, a session waits on a question
of the workflow, for a reply that it will judge. It does so until the jump that lets the customer pick
an event again was executed four times in the session, once more than it may be: then the session
waits on nothing. -/
theorem bundled_waits_until_retries_used (hw : Workflow.bundled = .ok (w, log)) (ho : o.AcceptsAll)
    {timeout : Option Rat} {st : State κ} {lives : String → List Event}
    (hr : Reaches ⟨w, r, o⟩ timeout st lives) (c : String) (s : Session)
    (hs : st.registry.find? c = some s) :
    ((∃ q, w.question? s.waiting = some q) ∧ s.pending?.isSome ∧
      Event.executions "36" (lives c) ≤ 3) ∨
    s.waiting = none ∧ Event.executions "36" (lives c) = 4 := by
  obtain ⟨j, d, hj, hk, hd, hid⟩ := Workflow.exists_retry hw
  have hcount : s.jumps "36" = Event.executions "36" (lives c) :=
    (recorded_of_reaches hr c s hs).jumps_eq_executions hw (Workflow.ids_bundled hw) hj hk hd hid
  have hjumps := Workflow.jumps_bundled hw r
  have hl := Workflow.bundled_leadsOn hw r
  cases settled_of_reaches hw hl ho hr c s hs with
  | waits q mem kind id within =>
    obtain ⟨hpending, hq⟩ := question?_of_leadsOn hw hl mem kind id
    have hmost := within ("36", 3) (by rw [hjumps]; exact List.mem_singleton_self _)
    refine Or.inl ⟨⟨q, hq⟩, hpending, ?_⟩
    dsimp only at hmost
    omega
  | stuck e mem waiting used =>
    rw [hjumps, List.mem_singleton] at mem
    subst mem
    refine Or.inr ⟨waiting, ?_⟩
    dsimp only at used
    omega

/-- After a greeting, a booking and a wrong answer to the event list the list waits for an answer. -/
theorem bundled_waits_until_retries_used_after_wrong_event :
    ∃ w log, Workflow.bundled = .ok (w, log) ∧
      let b : Bot Unit := ⟨w, ⟨10, 0, Rules.standardListButton⟩, quiet⟩
      let st := b.talk "966500000001" "Sara" ⟨.empty none, ()⟩ ["hi", "حجز تذكرة", "x"]
      b.outside.AcceptsAll ∧ ∃ lives, Reaches b none st lives ∧
        ∃ s, st.registry.find? "966500000001" = some s ∧ (∃ q, w.question? s.waiting = some q) ∧
          s.pending?.isSome ∧ Event.executions "36" (lives "966500000001") ≤ 3 := by
  obtain ⟨w, log, hw⟩ := Workflow.exists_bundled
  refine ⟨w, log, hw, ?_⟩
  intro b st
  obtain ⟨lives, hr⟩ : ∃ lives, Reaches b none st lives := exists_reaches_talk _ _ _ (.start ()) _
  obtain ⟨s, hs, hwaiting⟩ : ∃ s, st.registry.find? "966500000001" = some s ∧
      s.waiting = some "30" := waiting_talk_of_bundled hw (by decide +kernel)
  refine ⟨acceptsAll_quiet, lives, hr, s, hs, ?_⟩
  rcases bundled_waits_until_retries_used hw acceptsAll_quiet hr _ s hs with h | ⟨hno, -⟩
  · exact h
  · rw [hwaiting] at hno
    cases hno

/-- After a greeting, a booking and four wrong answers to the event list the session is still there,
and nothing waits. -/
theorem bundled_leaves_session_without_question :
    ∃ w log, Workflow.bundled = .ok (w, log) ∧
      let b : Bot Unit := ⟨w, ⟨10, 0, Rules.standardListButton⟩, quiet⟩
      let st := b.talk "966500000001" "Sara" ⟨.empty none, ()⟩
        ["hi", "حجز تذكرة", "x", "x", "x", "x"]
      b.outside.AcceptsAll ∧ (∃ lives, Reaches b none st lives) ∧
        ∃ s, st.registry.find? "966500000001" = some s ∧ s.waiting = none := by
  obtain ⟨w, log, hw⟩ := Workflow.exists_bundled
  exact ⟨w, log, hw, acceptsAll_quiet, exists_reaches_talk _ _ _ (.start ()) _,
    waiting_talk_of_bundled hw (by decide +kernel)⟩

end Bot

end ChatFlow

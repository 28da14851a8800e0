import ChatFlow.Proofs.Turn.Work

/-!
# What handling a message comes to

A message makes one turn (`Bot.turn`), which knows of the registry no more than the session that a
look-up finds. `find?_handle` says what is left of every conversation, `filterMap_handle` what
happens; the rest of a registry takes no part.
-/

namespace ChatFlow

@[simp] theorem Event.filterMap_noted {α : Type} {f : Event → Option α}
    (hf : ∀ e, f (.noted e) = none) (log : List Log.Entry) :
    (Bot.noted log).filterMap f = [] := by
  induction log with
  | nil => rfl
  | cons e log ih => rw [Bot.noted, List.map_cons, List.filterMap_cons, hf]; exact ih

namespace Turn

variable {κ : Type} (t : Turn κ) (o : Outside κ) (w : Workflow) (r : Rules)

theorem precedes_runFrom (next : Option Node) (hn : ∀ n, next = some n → n ∈ w.root.preorder) :
    t.Precedes (t.runFrom o w r next hn) := by
  cases next with
  | none => exact .refl t
  | some n => exact precedes_run ..

theorem precedes_judge (n : Node) (hn : n ∈ w.root.preorder) (reply : String) :
    t.Precedes (t.judge o w r n hn reply) := by
  have ha := (work_answer t o r n reply).precedes
  match h : t.answer r n reply with
  | (.error f, t') =>
    rw [judge_of_error hn h]; rw [h] at ha
    exact ha.trans (.note _)
  | (.ok none, t') =>
    rw [judge_of_none hn h]; rw [h] at ha
    exact ha
  | (.ok (some m), t') =>
    rw [judge_of_some hn h]; rw [h] at ha
    exact ha.trans (precedes_run ..)

theorem precedes_resume (reply : String) : t.Precedes (t.resume o w r reply) := by
  cases hq : w.question? t.session.waiting with
  | some n => rw [resume_of_some hq]; exact precedes_judge ..
  | none => rw [resume_of_none hq]; exact (Precedes.note _).trans .finish

end Turn

namespace Bot

variable {κ : Type} (b : Bot κ) (st : State κ) (now : Instant) (id text name : String)

theorem precedes_begin (t : Turn κ) : t.Precedes (b.begin t) :=
  Turn.precedes_runFrom ..

theorem precedes_hear (t : Turn κ) : t.Precedes (b.hear t text) := by
  unfold hear; split
  · exact Turn.precedes_resume ..
  · exact .note _

/-- The turn that a message makes. -/
def turn (b : Bot κ) (st : State κ) (now : Instant) (id text name : String) : Turn κ :=
  match st.registry.live? now id with
  | some s => b.hear (Turn.start s st.world) text
  | none => b.begin (Turn.start (Session.start now id name) st.world)

theorem session_turn_id : (b.turn st now id text name).session.id = id := by
  unfold turn; split
  · rename_i s hs
    exact (b.precedes_hear text (Turn.start s st.world)).id.trans (Registry.id_of_live? hs)
  · exact (b.precedes_begin _).id

theorem recipient_turn {m : Outbound} (h : Event.sent m ∈ (b.turn st now id text name).events) :
    m.recipient = id := by
  unfold turn at h; split at h
  · rename_i s hs
    obtain ⟨es, he, hm⟩ := (b.precedes_hear text (Turn.start s st.world)).events
    rw [he] at h
    exact (hm m h).trans (Registry.id_of_live? hs)
  · obtain ⟨es, he, hm⟩ :=
      (b.precedes_begin (Turn.start (Session.start now id name) st.world)).events
    rw [he] at h
    exact hm m h

theorem find?_settle (t : Turn κ) (id : String) :
    (st.settle t).registry.find? id =
      if t.session.id = id then (if t.isLive then some t.session else none)
      else st.registry.find? id := by
  cases h : t.isLive <;> simp [State.settle, h]

theorem idleTimeout_settle (t : Turn κ) :
    (st.settle t).registry.idleTimeout = st.registry.idleTimeout := by
  cases h : t.isLive <;> simp [State.settle, h, Registry.store, Registry.drop]

/-- Handling a message is its turn, kept in the registry that the look-up has left. -/
theorem handle_eq :
    ∃ r log, b.handle st now id text name =
        (State.settle ⟨r, st.world⟩ (b.turn st now id text name),
          noted log ++ (b.turn st now id text name).events) ∧
      r.idleTimeout = st.registry.idleTimeout ∧
      ∀ id' ≠ id, r.find? id' = st.registry.find? id' := by
  have hlive := st.registry.get_eq_live? now id
  have hfind := st.registry.find?_get now id
  have htime := st.registry.idleTimeout_get now id
  unfold handle turn
  rw [← hlive]
  match hg : st.registry.get now id with
  | (some s, r, log) =>
    rw [hg] at hfind htime
    exact ⟨r, log, rfl, htime, fun id' h => by simpa [Ne.symm h] using hfind id'⟩
  | (none, r, log) =>
    rw [hg] at hfind htime
    refine ⟨(r.create now id name).2.1, log ++ (r.create now id name).2.2, ?_, htime, fun id' h => ?_⟩
    · simp [start, noted, Registry.create]
    · rw [Registry.find?_create, if_neg (Ne.symm h)]
      simpa [Ne.symm h] using hfind id'

theorem world_handle :
    (b.handle st now id text name).1.world = (b.turn st now id text name).world := by
  obtain ⟨r, log, h, -⟩ := b.handle_eq st now id text name
  rw [h]; rfl

theorem idleTimeout_handle :
    (b.handle st now id text name).1.registry.idleTimeout = st.registry.idleTimeout := by
  obtain ⟨r, log, h, hr, -⟩ := b.handle_eq st now id text name
  rw [h]; exact (idleTimeout_settle ..).trans hr

/-- A message leaves the session of its own turn, and all other sessions as they were. -/
theorem find?_handle (id' : String) :
    (b.handle st now id text name).1.registry.find? id' =
      if id = id' then
        (if (b.turn st now id text name).isLive then some (b.turn st now id text name).session
          else none)
      else st.registry.find? id' := by
  obtain ⟨r, log, h, -, hr⟩ := b.handle_eq st now id text name
  rw [h, find?_settle, b.session_turn_id st now id text name]
  by_cases hid : id = id'
  · simp [hid]
  · simp [hid, hr id' (Ne.symm hid)]

theorem filterMap_handle {α : Type} {f : Event → Option α} (hf : ∀ e, f (.noted e) = none) :
    (b.handle st now id text name).2.filterMap f =
      (b.turn st now id text name).events.filterMap f := by
  obtain ⟨r, log, h, -⟩ := b.handle_eq st now id text name
  rw [h, List.filterMap_append, Event.filterMap_noted hf, List.nil_append]

end Bot

end ChatFlow

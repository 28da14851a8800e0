import ChatFlow.Proofs.Sweeping
import Mathlib.Data.List.Chain
import Mathlib.Data.List.Induction

/-!
# A session lives as long as its history says

A registry keeps of a session when it was last touched, and drops it when it is looked up too late.
What that comes to is told by the operations alone: the latest creation of a session that was not
deleted since, and the touches from there (`Registry.life?`, `Registry.life?_eq_some_iff`).
`Registry.Holds` says what a registry has of a conversation with such a life, every operation keeps
it (`Registry.holds_after`), and look-ups are read off it (`Registry.session_lives_by_history`).
-/

namespace ChatFlow

/-- Readings of a clock that never goes back, one after the other, to which it makes no difference that
whole ones are kept exactly. -/
structure Instant.Clocked (T : List Instant) : Prop where
  steady : Steady T
  sorted : T.Pairwise (·.seconds ≤ ·.seconds)

theorem Instant.Clocked.of_sublist {T T' : List Instant} (h : Clocked T) (hT : T'.Sublist T) :
    Clocked T' :=
  ⟨h.steady.of_subset hT.subset, h.sorted.sublist hT⟩

namespace Registry

open Instant (Clocked)

/-! ### Operations -/

inductive Operation where
  | create (now : Instant) (id name : String)
  | get (now : Instant) (id : String)
  | delete (id : String)
  | purge (now : Instant)

namespace Operation

def perform (r : Registry) : Operation → Registry
  | create now id name => (r.create now id name).2.1
  | get now id => (r.get now id).2.1
  | delete id => (r.delete id).1
  | purge now => (r.purge now).2.1

/-- The reading of the clock; to delete a session takes none. -/
def now? : Operation → Option Instant
  | create now _ _ | get now _ | purge now => some now
  | delete _ => none

/-- When the session of a conversation is touched: it is created or looked up. -/
def touch? (c : String) : Operation → Option Instant
  | create now id _ | get now id => if id = c then some now else none
  | delete _ | purge _ => none

/-- A session that the conversation had before is replaced or deleted. -/
def ends (c : String) : Operation → Bool
  | create _ id _ | delete id => id = c
  | get _ _ | purge _ => false

theorem idleTimeout_perform (r : Registry) (op : Operation) :
    (op.perform r).idleTimeout = r.idleTimeout := by
  cases op with
  | create now id name => rfl
  | get now id => exact idleTimeout_get r now id
  | delete id => simp only [perform, Registry.delete]; split <;> rfl
  | purge now => rfl

end Operation

/-- The registry after some operations. -/
def after (timeout : Option Rat) (ops : List Operation) : Registry :=
  ops.foldl Operation.perform (.empty timeout)

def readings (ops : List Operation) : List Instant := ops.filterMap Operation.now?

def touches (c : String) (ops : List Operation) : List Instant := ops.filterMap (·.touch? c)

/-- A session that was touched at `last` lasts until `now`. -/
def Lasts (timeout : Option Rat) (last now : Instant) : Prop :=
  ∀ limit, timeout = some limit → now.since last ≤ limit

/-- The last session of a conversation was created at `start`, and was not deleted among the
operations that came later. -/
def Begun (c : String) (ops : List Operation) (start : Instant) (name : String)
    (later : List Operation) : Prop :=
  ∃ before, ops = before ++ .create start c name :: later ∧ ∀ op ∈ later, op.ends c = false

/-- By its history a conversation has the session `s` at the time `t`: it is the one that was created
last, was not deleted since, and has lasted from each touch to the next, up to `t`. -/
def Survives (lasts : Instant → Instant → Prop) (c : String) (ops : List Operation) (t : Instant)
    (s : Session) : Prop :=
  ∃ start name later, Begun c ops start name later ∧
    (start :: (touches c later ++ [t])).IsChain lasts ∧ s = (Session.start start c name).touch t

variable {timeout : Option Rat} {c : String} {ops : List Operation} {op : Operation}
  {t t' : Instant} {T : List Instant} {r : Registry} {s : Session}

theorem after_concat (timeout : Option Rat) (ops : List Operation) (op : Operation) :
    after timeout (ops ++ [op]) = op.perform (after timeout ops) := by
  rw [after, List.foldl_append]; rfl

theorem readings_append (ops ops' : List Operation) :
    readings (ops ++ ops') = readings ops ++ readings ops' :=
  List.filterMap_append

theorem touches_append (c : String) (ops ops' : List Operation) :
    touches c (ops ++ ops') = touches c ops ++ touches c ops' :=
  List.filterMap_append

theorem readings_concat (ops : List Operation) (op : Operation) :
    readings (ops ++ [op]) = readings ops ++ op.now?.toList := by
  rw [readings_append]
  cases op <;> rfl

theorem touches_concat (c : String) (ops : List Operation) (op : Operation) :
    touches c (ops ++ [op]) = touches c ops ++ (op.touch? c).toList := by
  rw [touches_append]
  cases h : op.touch? c <;> simp [touches, h]

theorem touches_subset_readings (c : String) (ops : List Operation) :
    touches c ops ⊆ readings ops := by
  intro t ht
  obtain ⟨op, hop, htouch⟩ := List.mem_filterMap.1 ht
  refine List.mem_filterMap.2 ⟨op, hop, ?_⟩
  cases op with
  | create now id name => exact (Option.ite_none_right_eq_some.1 htouch).2
  | get now id => exact (Option.ite_none_right_eq_some.1 htouch).2
  | delete id => cases htouch
  | purge now => cases htouch

theorem Begun.subset_readings {start : Instant} {name : String} {later : List Operation}
    (h : Begun c ops start name later) : start :: touches c later ⊆ readings ops := by
  obtain ⟨before, rfl, -⟩ := h
  rw [readings_append]
  refine List.subset_append_of_subset_right _ ?_
  exact List.cons_subset_cons start (touches_subset_readings c later)

theorem idleTimeout_after (timeout : Option Rat) (ops : List Operation) :
    (after timeout ops).idleTimeout = timeout := by
  induction ops using List.reverseRecOn with
  | nil => rfl
  | append_singleton ops op ih => rw [after_concat, Operation.idleTimeout_perform, ih]

instance : DecidableRel (Lasts timeout) := fun last now =>
  match timeout with
  | none => isTrue nofun
  | some limit => decidable_of_iff (now.since last ≤ limit) (by simp [Lasts])

theorem isExpired_eq_false_iff : r.isExpired t s = false ↔ Lasts r.idleTimeout s.lastActivity t := by
  unfold isExpired Lasts
  cases r.idleTimeout with
  | none => simp
  | some limit => simp [not_lt]

theorem Lasts.of_le {last : Instant} (h : Lasts timeout last t') (hT : Instant.Steady T) (ht : t ∈ T) (ht' : t' ∈ T)
    (hlast : last ∈ T) (hle : t.seconds ≤ t'.seconds) : Lasts timeout last t :=
  fun limit hlimit => le_trans (Instant.since_mono hT ht ht' hlast hle) (h limit hlimit)

/-! ### Lives -/

/-- The life of a session in a history: its creation, and when it was looked up since. -/
structure Life where
  start : Instant
  name : String
  lookups : List Instant

namespace Life

variable {l : Life} {lasts : Instant → Instant → Prop}

def instants (l : Life) : List Instant := l.start :: l.lookups

def last (l : Life) : Instant := l.lookups.getLast?.getD l.start

def touch (l : Life) (t : Instant) : Life := { l with lookups := l.lookups ++ [t] }

/-- The session that has this life. -/
def session (l : Life) (c : String) : Session := (Session.start l.start c l.name).touch l.last

theorem session_touch (l : Life) (c : String) (t : Instant) :
    (l.touch t).session c = (l.session c).touch t := by
  simp [session, touch, last, Session.start, Session.touch]

theorem getLast?_instants (l : Life) : l.instants.getLast? = some l.last := by
  rw [instants, List.getLast?_cons, last]

theorem isChain_touch :
    (l.touch t).instants.IsChain lasts ↔ l.instants.IsChain lasts ∧ lasts l.last t := by
  have happ : (l.touch t).instants = l.instants ++ [t] := rfl
  rw [happ, List.isChain_append, getLast?_instants]
  simp

end Life

/-- The life of the session that a conversation has after some operations, if none of them has put an
end to it. -/
def Operation.outlive (c : String) (life : Option Life) : Operation → Option Life
  | create now id name => if id = c then some ⟨now, name, []⟩ else life
  | get now id => if id = c then life.map (·.touch now) else life
  | delete id => if id = c then none else life
  | purge _ => life

def life? (c : String) (ops : List Operation) : Option Life := ops.foldl (Operation.outlive c) none

theorem life?_concat (c : String) (ops : List Operation) (op : Operation) :
    life? c (ops ++ [op]) = op.outlive c (life? c ops) := by
  rw [life?, List.foldl_append]; rfl

theorem Operation.outlive_of_not_ends (h : op.ends c = false) (life : Option Life) :
    op.outlive c life =
      life.map fun l => { l with lookups := l.lookups ++ (op.touch? c).toList } := by
  cases op with
  | create now id name =>
    have hid : id ≠ c := of_decide_eq_false h
    simp [outlive, touch?, hid]
  | get now id => by_cases hid : id = c <;> simp [outlive, touch?, hid, Life.touch]
  | delete id =>
    have hid : id ≠ c := of_decide_eq_false h
    simp [outlive, touch?, hid]
  | purge now => simp [outlive, touch?]

theorem Operation.outlive_eq_some_of_ends (h : op.ends c = true) {life : Option Life} {l : Life} :
    op.outlive c life = some l ↔ op = .create l.start c l.name ∧ l.lookups = [] := by
  cases op with
  | create now id name =>
    obtain rfl : id = c := of_decide_eq_true h
    rw [outlive, if_pos rfl, Option.some.injEq]
    constructor
    · rintro rfl
      exact ⟨rfl, rfl⟩
    · rintro ⟨hop, hlookups⟩
      cases l
      cases hop
      cases hlookups
      rfl
  | get now id => cases h
  | delete id =>
    obtain rfl : id = c := of_decide_eq_true h
    rw [outlive, if_pos rfl]
    simp
  | purge now => cases h

/-- One more operation begins a session, or comes later than the beginning of the one before. -/
theorem begun_concat_iff {start : Instant} {name : String} {later : List Operation} :
    Begun c (ops ++ [op]) start name later ↔
      op = .create start c name ∧ later = [] ∨
        ∃ later', later = later' ++ [op] ∧ op.ends c = false ∧ Begun c ops start name later' := by
  constructor
  · rintro ⟨before, hops, hlater⟩
    rcases List.eq_nil_or_concat later with rfl | ⟨later', o, rfl⟩
    · exact Or.inl ⟨(List.cons.inj (List.append_inj' hops rfl).2).1, rfl⟩
    · rw [List.concat_eq_append] at hops hlater ⊢
      rw [← List.cons_append, ← List.append_assoc] at hops
      obtain ⟨rfl, hop⟩ := List.append_inj' hops rfl
      cases hop
      exact Or.inr ⟨later', rfl, hlater op (List.mem_append_right _ List.mem_cons_self),
        before, rfl, fun o ho => hlater o (List.mem_append_left _ ho)⟩
  · rintro (⟨rfl, rfl⟩ | ⟨later', rfl, hends, before, rfl, hlater⟩)
    · exact ⟨ops, rfl, nofun⟩
    · refine ⟨before, by simp, fun o ho => ?_⟩
      rcases List.mem_append.1 ho with ho | ho
      · exact hlater o ho
      · rw [List.mem_singleton.1 ho]
        exact hends

/-- The life of a session begins with the creation that no operation has put an end to since. -/
theorem life?_eq_some_iff {start : Instant} {name : String} {lookups : List Instant} :
    life? c ops = some ⟨start, name, lookups⟩ ↔
      ∃ later, Begun c ops start name later ∧ touches c later = lookups := by
  induction ops using List.reverseRecOn generalizing lookups with
  | nil =>
    constructor
    · intro h; cases h
    · rintro ⟨later, ⟨before, h, -⟩, -⟩
      cases before <;> cases h
  | append_singleton ops op ih =>
    simp only [life?_concat, begun_concat_iff]
    cases hends : op.ends c with
    | true =>
      rw [Operation.outlive_eq_some_of_ends hends]
      constructor
      · rintro ⟨hop, hlookups⟩
        exact ⟨[], Or.inl ⟨hop, rfl⟩, hlookups.symm⟩
      · rintro ⟨later, ⟨hop, rfl⟩ | ⟨-, -, hno, -⟩, rfl⟩
        · exact ⟨hop, rfl⟩
        · cases hno
    | false =>
      rw [Operation.outlive_of_not_ends hends]
      constructor
      · intro h
        obtain ⟨l, hl, hlife⟩ := Option.map_eq_some_iff.1 h
        cases hlife
        obtain ⟨later, hbegun, htouches⟩ := ih.1 hl
        exact ⟨later ++ [op], Or.inr ⟨later, rfl, rfl, hbegun⟩, by rw [touches_concat, htouches]⟩
      · rintro ⟨later, ⟨rfl, -⟩ | ⟨later', rfl, -, hbegun⟩, rfl⟩
        · exact absurd hends (by simp [Operation.ends])
        · rw [ih.2 ⟨later', hbegun, rfl⟩, touches_concat]
          rfl

/-- What a history says of a look-up, in terms of the life that it looks up. -/
theorem survives_iff {lasts : Instant → Instant → Prop} :
    Survives lasts c ops t s ↔ ∃ l, life? c ops = some l ∧ (l.touch t).instants.IsChain lasts ∧
      s = (l.touch t).session c := by
  constructor
  · rintro ⟨start, name, later, hbegun, hchain, rfl⟩
    refine ⟨⟨start, name, touches c later⟩, life?_eq_some_iff.2 ⟨later, hbegun, rfl⟩, hchain, ?_⟩
    rw [Life.session_touch]
    rfl
  · rintro ⟨⟨start, name, lookups⟩, hl, hchain, rfl⟩
    obtain ⟨later, hbegun, rfl⟩ := life?_eq_some_iff.1 hl
    refine ⟨start, name, later, hbegun, hchain, ?_⟩
    rw [Life.session_touch]
    rfl

theorem last_mem_readings {l : Life} (h : life? c ops = some l) : l.last ∈ readings ops := by
  obtain ⟨later, hbegun, hlookups⟩ := life?_eq_some_iff.1 h
  refine hbegun.subset_readings ?_
  rw [hlookups]
  exact List.mem_of_getLast? l.getLast?_instants

/-! ### What a registry holds -/

/-- What a registry has of a conversation, by the life of its session and the readings of the clock so
far: the session as it was last touched, or nothing since the session was not touched in time, or since
it was swept away. -/
inductive Holds (lasts : Instant → Instant → Prop) (seen : List Instant) (c : String) :
    Option Life → Option Session → Prop
  | nothing : Holds lasts seen c none none
  | alive (l : Life) (h : l.instants.IsChain lasts) : Holds lasts seen c (some l) (some (l.session c))
  | lapsed (l : Life) (h : ¬ l.instants.IsChain lasts) : Holds lasts seen c (some l) none
  | swept (l : Life) {t : Instant} (ht : t ∈ seen) (h : ¬ lasts l.last t) :
      Holds lasts seen c (some l) none

theorem Holds.mono {lasts : Instant → Instant → Prop} {seen seen' : List Instant}
    {life : Option Life} {found : Option Session} (h : Holds lasts seen c life found)
    (hseen : seen ⊆ seen') : Holds lasts seen' c life found := by
  cases h with
  | nothing => exact .nothing
  | alive l h => exact .alive l h
  | lapsed l h => exact .lapsed l h
  | swept l ht h => exact .swept l (hseen ht) h

theorem live?_eq_none_of_expired (hs : r.find? c = some s) (h : ¬ Lasts r.idleTimeout s.lastActivity t) :
    r.live? t c = none := by
  have hexp : r.isExpired t s = true := by
    rw [← Bool.not_eq_false, isExpired_eq_false_iff]
    exact h
  rw [live?, hs, Option.filter_some, hexp]
  rfl

theorem live?_eq_some_iff_of_holds (hclock : Clocked (readings ops ++ [t]))
    (h : Holds (Lasts timeout) (readings ops) c (life? c ops) ((after timeout ops).find? c)) :
    (after timeout ops).live? t c = some s ↔ ∃ l, life? c ops = some l ∧
      (l.touch t).instants.IsChain (Lasts timeout) ∧ s = (l.touch t).session c := by
  have htime : (after timeout ops).idleTimeout = timeout := idleTimeout_after timeout ops
  have absent (hf : (after timeout ops).find? c = none)
      (hno : ∀ l, life? c ops = some l → ¬ (l.touch t).instants.IsChain (Lasts timeout)) :
      (after timeout ops).live? t c = some s ↔ ∃ l, life? c ops = some l ∧
        (l.touch t).instants.IsChain (Lasts timeout) ∧ s = (l.touch t).session c := by
    rw [live?, hf]
    constructor
    · intro h; cases h
    · rintro ⟨l, hl, hchain, -⟩
      exact absurd hchain (hno l hl)
  generalize hl : life? c ops = life at h
  generalize hf : (after timeout ops).find? c = found at h
  cases h with
  | nothing => exact hl ▸ absent hf fun l hl' => by rw [hl] at hl'; cases hl'
  | alive l hchain =>
    by_cases hlasts : Lasts timeout l.last t
    · have hlive : (after timeout ops).live? t c = some ((l.touch t).session c) := by
        rw [Life.session_touch]
        refine live?_of_find? hf (isExpired_eq_false_iff.2 ?_)
        rw [htime]
        exact hlasts
      rw [hlive, Option.some.injEq]
      constructor
      · rintro rfl
        exact ⟨l, rfl, Life.isChain_touch.2 ⟨hchain, hlasts⟩, rfl⟩
      · rintro ⟨l', hl', -, rfl⟩
        rw [Option.some.inj hl']
    · have hexp : ¬ Lasts (after timeout ops).idleTimeout (l.session c).lastActivity t := by
        rw [htime]
        exact hlasts
      rw [live?_eq_none_of_expired hf hexp]
      constructor
      · intro h; cases h
      · rintro ⟨l', hl', hchain', -⟩
        cases hl'
        exact absurd (Life.isChain_touch.1 hchain').2 hlasts
  | lapsed l hbroken =>
    refine hl ▸ absent hf fun l' hl' => ?_
    obtain rfl : l = l' := Option.some.inj (hl.symm.trans hl')
    exact fun hchain => hbroken (Life.isChain_touch.1 hchain).1
  | @swept l p hp hidle =>
    refine hl ▸ absent hf fun l' hl' => ?_
    obtain rfl : l = l' := Option.some.inj (hl.symm.trans hl')
    intro hchain
    -- It had been idle for too long at the sweep, and has been ever since.
    have hle : p.seconds ≤ t.seconds :=
      (List.pairwise_append.1 hclock.sorted).2.2 p hp t List.mem_cons_self
    exact hidle ((Life.isChain_touch.1 hchain).2.of_le hclock.steady (List.mem_append_left _ hp)
      (List.mem_append_right _ List.mem_cons_self) (List.mem_append_left _ (last_mem_readings hl)) hle)

/-- Every operation keeps what a registry holds in accordance with the lives of its sessions. -/
theorem holds_perform (hclock : Clocked (readings (ops ++ [op])))
    (h : Holds (Lasts timeout) (readings ops) c (life? c ops) ((after timeout ops).find? c)) :
    Holds (Lasts timeout) (readings (ops ++ [op])) c (life? c (ops ++ [op]))
      ((after timeout (ops ++ [op])).find? c) := by
  rw [readings_concat] at hclock
  have hkept := h.mono (List.subset_append_left (readings ops) op.now?.toList)
  rw [life?_concat, after_concat, readings_concat]
  cases op with
  | create now id name =>
    show Holds _ _ c (Operation.outlive c _ _) (((after timeout ops).create now id name).2.1.find? c)
    rw [find?_create, Operation.outlive]
    split
    · rename_i hid
      subst hid
      exact .alive ⟨now, name, []⟩ (.singleton now)
    · exact hkept
  | get now id =>
    show Holds _ _ c (Operation.outlive c _ _) (((after timeout ops).get now id).2.1.find? c)
    rw [find?_get, Operation.outlive]
    split
    · rename_i hid
      subst hid
      have hlive : ∀ s, (after timeout ops).live? now id = some s ↔ _ :=
        fun _ => live?_eq_some_iff_of_holds hclock h
      have absent (hno : ∀ l, life? id ops = some l → ¬ (l.touch now).instants.IsChain (Lasts timeout)) :
          (after timeout ops).live? now id = none := by
        refine Option.eq_none_iff_forall_ne_some.2 fun s hs => ?_
        obtain ⟨l, hl, hchain, -⟩ := (hlive s).1 hs
        exact hno l hl hchain
      cases hl : life? id ops with
      | none =>
        rw [absent fun l hl' => by rw [hl] at hl'; cases hl']
        exact .nothing
      | some l =>
        by_cases hchain : (l.touch now).instants.IsChain (Lasts timeout)
        · rw [(hlive _).2 ⟨l, hl, hchain, rfl⟩]
          exact .alive (l.touch now) hchain
        · rw [absent fun l' hl' => by rwa [← Option.some.inj (hl.symm.trans hl')]]
          exact .lapsed (l.touch now) hchain
    · exact hkept
  | delete id =>
    show Holds _ _ c (Operation.outlive c _ _) (((after timeout ops).delete id).1.find? c)
    rw [find?_delete, Operation.outlive]
    split
    · exact .nothing
    · exact hkept
  | purge now =>
    show Holds _ _ c (life? c ops) (((after timeout ops).purge now).2.1.find? c)
    rw [find?_purge]
    generalize life? c ops = life at hkept ⊢
    generalize (after timeout ops).find? c = found at hkept ⊢
    cases hkept with
    | nothing => exact .nothing
    | alive l hchain =>
      rw [Option.filter_some]
      cases hexp : (after timeout ops).isExpired now (l.session c) with
      | false => exact .alive l hchain
      | true =>
        refine .swept l (List.mem_append_right _ List.mem_cons_self) fun hlasts => ?_
        rw [← idleTimeout_after timeout ops] at hlasts
        rw [isExpired_eq_false_iff.2 hlasts] at hexp
        cases hexp
    | lapsed l hbroken => exact .lapsed l hbroken
    | swept l ht hidle => exact .swept l ht hidle

theorem holds_after (timeout : Option Rat) (c : String) (hclock : Clocked (readings ops)) :
    Holds (Lasts timeout) (readings ops) c (life? c ops) ((after timeout ops).find? c) := by
  induction ops using List.reverseRecOn with
  | nil => exact .nothing
  | append_singleton ops op ih =>
    refine holds_perform hclock (ih (hclock.of_sublist ?_))
    rw [readings_append]
    exact List.sublist_append_left ..

theorem get_eq_some_iff_survives (hclock : Clocked (readings ops ++ [t])) :
    ((after timeout ops).get t c).1 = some s ↔ Survives (Lasts timeout) c ops t s := by
  rw [get_eq_live?, survives_iff]
  exact live?_eq_some_iff_of_holds hclock
    (holds_after timeout c (hclock.of_sublist (List.sublist_append_left ..)))

theorem begun_of_find? (hclock : Clocked (readings ops)) (hs : (after timeout ops).find? c = some s) :
    ∃ start name later, Begun c ops start name later ∧
      s = (Session.start start c name).touch ((touches c later).getLast?.getD start) := by
  have h := holds_after timeout c hclock
  rw [hs] at h
  generalize hl : life? c ops = life at h
  cases h with
  | alive l _ =>
    obtain ⟨later, hbegun, hlookups⟩ := life?_eq_some_iff.1 hl
    refine ⟨l.start, l.name, later, hbegun, ?_⟩
    rw [hlookups]
    rfl

/-- A conversation that has no session at some time has none later, but for one that is created in the
meantime. -/
theorem Survives.of_dead {more : List Operation} {p : Instant}
    (h : Survives (Lasts timeout) c (ops ++ more) t s)
    (hclock : Clocked (readings ops ++ p :: (readings more ++ [t])))
    (hdead : ∀ s, ¬ Survives (Lasts timeout) c ops p s) : Survives (Lasts timeout) c more t s := by
  obtain ⟨start, name, later, ⟨before, hops, hlater⟩, hchain, rfl⟩ := h
  rcases List.append_eq_append_iff.1 hops with ⟨mid, -, hmore⟩ | ⟨mid, hbefore, hrest⟩
  · exact ⟨start, name, later, ⟨mid, hmore, hlater⟩, hchain, rfl⟩
  cases mid with
  | nil => exact ⟨start, name, later, ⟨[], hrest.symm, hlater⟩, hchain, rfl⟩
  | cons op mid =>
    -- It was created before that time, and would have lasted until then.
    rw [List.cons_append] at hrest
    obtain ⟨rfl, rfl⟩ := List.cons.inj hrest
    have hbegun : Begun c ops start name mid :=
      ⟨before, hbefore, fun o ho => hlater o (List.mem_append_left _ ho)⟩
    refine absurd ⟨start, name, mid, hbegun, ?_, rfl⟩ (hdead ((Session.start start c name).touch p))
    rw [touches_append, List.append_assoc, ← List.cons_append] at hchain
    obtain ⟨hmid, -, hnext⟩ := List.isChain_append.1 hchain
    rw [← List.cons_append]
    refine List.isChain_append.2 ⟨hmid, .singleton p, fun last hlast p' hp' => ?_⟩
    obtain rfl : p = p' := Option.some.inj hp'
    obtain ⟨next, hnext'⟩ : ∃ next, (touches c more ++ [t]).head? = some next := by
      cases touches c more <;> exact ⟨_, rfl⟩
    have hseen : next ∈ readings more ++ [t] := by
      rcases List.mem_append.1 (List.mem_of_head? hnext') with htouch | ht
      · exact List.mem_append_left _ (touches_subset_readings c more htouch)
      · exact List.mem_append_right _ ht
    have hle : p.seconds ≤ next.seconds :=
      (List.pairwise_cons.1 (List.pairwise_append.1 hclock.sorted).2.1).1 next hseen
    refine (hnext last hlast next hnext').of_le hclock.steady
      (List.mem_append_right _ List.mem_cons_self)
      (List.mem_append_right _ (List.mem_cons_of_mem _ hseen))
      (List.mem_append_left _ (hbegun.subset_readings (List.mem_of_getLast? hlast))) hle

theorem lastActivity_of_get (h : (r.get t c).1 = some s) : s.lastActivity = t := by
  rw [get_eq_live?] at h
  obtain ⟨s', -, rfl⟩ := Option.map_eq_some_iff.1 h
  rfl

theorem find?_purge_eq_some_iff (hr : r.idleTimeout = timeout) :
    (r.purge t).2.1.find? c = some s ↔ r.find? c = some s ∧ Lasts timeout s.lastActivity t := by
  rw [find?_purge, Option.filter_eq_some_iff, ← hr, ← isExpired_eq_false_iff, Bool.not_eq_true']

theorem purge_count (r : Registry) (t : Instant) :
    (r.purge t).1 + (r.purge t).2.1.sessions.length = r.sessions.length := by
  show (r.sessions.filter fun e => r.isExpired t e.2).length +
    (r.sessions.filter fun e => ! r.isExpired t e.2).length = _
  rw [← List.length_eq_length_filter_add]

/-- A session lives as long as its history says, on a clock that never goes back and to which it makes
no difference that whole readings are kept exactly. A look-up finds the session that was created last,
was not deleted since and has lasted from each touch to the next, which for a gap of just the timeout
it has; it is active then. What is found after a time at which there was none was created in the
meantime. A sweep drops the sessions that have been idle for too long, the number of which it returns,
and no others; and what is there was active at its last touch. -/
theorem session_lives_by_history (timeout : Option Rat) (ops : List Operation) (c : String) :
    let r := after timeout ops
    (∀ t, Clocked (readings ops ++ [t]) →
      ∀ s, (r.get t c).1 = some s ↔ Survives (Lasts timeout) c ops t s) ∧
    (∀ t s, (r.get t c).1 = some s → s.lastActivity = t) ∧
    (∀ p more t, Clocked (readings ops ++ p :: (readings more ++ [t])) →
      (∀ s, ¬ Survives (Lasts timeout) c ops p s) →
      ∀ s, ((after timeout (ops ++ more)).get t c).1 = some s →
        Survives (Lasts timeout) c more t s) ∧
    (Clocked (readings ops) → ∀ s, r.find? c = some s → ∃ start name later,
      Begun c ops start name later ∧
        s = (Session.start start c name).touch ((touches c later).getLast?.getD start)) ∧
    ∀ p, (∀ s, (r.purge p).2.1.find? c = some s ↔
        r.find? c = some s ∧ Lasts timeout s.lastActivity p) ∧
      (r.purge p).1 + (r.purge p).2.1.sessions.length = r.sessions.length := by
  refine ⟨fun t hclock s => get_eq_some_iff_survives hclock, fun t s h => lastActivity_of_get h, ?_,
    fun hclock s hs => begun_of_find? hclock hs,
    fun p => ⟨fun s => find?_purge_eq_some_iff (idleTimeout_after timeout ops), purge_count _ p⟩⟩
  intro p more t hclock hdead s hs
  have hlast : readings (ops ++ more) ++ [t] = readings ops ++ (readings more ++ [t]) := by
    rw [readings_append, List.append_assoc]
  have hrun : Clocked (readings (ops ++ more) ++ [t]) := by
    rw [hlast]
    exact hclock.of_sublist ((List.sublist_cons_self p _).append_left (readings ops))
  exact ((get_eq_some_iff_survives hrun).1 hs).of_dead hclock hdead

/-- A gap of just the timeout keeps a session alive; after a longer one it is not found, swept away or
not. -/
theorem session_lives_by_history_at_timeout :
    let ops : List Operation := [.create (.ofInt 0) "a" "Ada", .get (.ofInt 60) "a"]
    let r := after (some 60) ops
    let s := (Session.start (.ofInt 0) "a" "Ada").touch (.ofInt 120)
    (r.get (.ofInt 120) "a").1 = some s ∧ s.lastActivity = .ofInt 120 ∧
      ((after (some 60) (ops ++ [.purge (.ofInt 130)])).get (.ofInt 140) "a").1 = none ∧
      ∃ s', r.find? "a" = some s' ∧ (r.purge (.ofInt 121)).2.1.find? "a" = none ∧
        ∃ start name later, Begun "a" ops start name later ∧
          s' = (Session.start start "a" name).touch ((touches "a" later).getLast?.getD start) := by
  intro ops r s
  obtain ⟨hget, hactive, hdead, hfound, hsweep⟩ := session_lives_by_history (some 60) ops "a"
  have clocked {T : List Instant} (hw : ∀ t ∈ T, t.isWhole = true)
      (hs : T.Pairwise (·.seconds ≤ ·.seconds)) : Clocked T := ⟨Or.inl hw, hs⟩
  have hs : (r.get (.ofInt 120) "a").1 = some s :=
    (hget (.ofInt 120) (clocked (by decide +kernel) (by decide +kernel)) s).2
      ⟨.ofInt 0, "Ada", [.get (.ofInt 60) "a"], ⟨[], rfl, by decide⟩, by decide +kernel, rfl⟩
  have hs' : r.find? "a" = some ((Session.start (.ofInt 0) "a" "Ada").touch (.ofInt 60)) := by
    show ((after (some 60) [.create (.ofInt 0) "a" "Ada"]).get (.ofInt 60) "a").2.1.find? "a" = _
    rw [find?_get, if_pos rfl]
    exact live?_of_find? rfl (by decide +kernel)
  have hswept : (r.purge (.ofInt 121)).2.1.find? "a" = none := by
    refine Option.eq_none_iff_forall_ne_some.2 fun s' h => ?_
    obtain ⟨h, hlasts⟩ := ((hsweep (.ofInt 121)).1 s').1 h
    rw [hs'] at h
    cases h
    exact absurd hlasts (by decide +kernel)
  have hidle : ∀ s', ¬ Survives (Lasts (some 60)) "a" ops (.ofInt 121) s' := by
    intro s' h
    have hlive : ((r.get (.ofInt 121) "a").1).isSome := by
      rw [(hget (.ofInt 121) (clocked (by decide +kernel) (by decide +kernel)) s').2 h]
      rfl
    exact absurd hlive (by decide +kernel)
  refine ⟨hs, hactive _ s hs, ?_, _, hs', hswept,
    hfound (clocked (by decide +kernel) (by decide +kernel)) _ hs'⟩
  refine Option.eq_none_iff_forall_ne_some.2 fun s' h => ?_
  obtain ⟨start, name, later, ⟨before, hmore, -⟩, -⟩ :=
    hdead (.ofInt 121) [.purge (.ofInt 130)] (.ofInt 140)
      (clocked (by decide +kernel) (by decide +kernel)) hidle s' h
  have hmem : Operation.create start "a" name ∈ [Operation.purge (.ofInt 130)] := by
    rw [hmore]
    exact List.mem_append_right _ List.mem_cons_self
  cases List.mem_singleton.1 hmem

/-- Past fifty-three digits no measure of the gaps tells who is found: of two conversations with the
same history of touches, the one that is swept at a whole reading is lost, and at the same time, read
as a double, the other is found. -/
theorem session_lost_between_doubles :
    let first : Instant := .ofInt 9007199254740995
    let last : Instant := ⟨9007199254740996, false, false⟩
    let plain : List Operation := [.create first "a" "Ada"]
    let swept : List Operation := [.create first "a" "Ada", .purge (.ofInt 9007199254740996)]
    (readings swept ++ [last]).Pairwise (·.seconds ≤ ·.seconds) ∧
      ((after (some (1 / 2)) plain).get last "a").1.isSome ∧
      ((after (some (1 / 2)) swept).get last "a").1 = none ∧
      ¬ ∃ lasts : Instant → Instant → Prop,
        (∀ s, ((after (some (1 / 2)) plain).get last "a").1 = some s ↔
          Survives lasts "a" plain last s) ∧
        (∀ s, ((after (some (1 / 2)) swept).get last "a").1 = some s ↔
          Survives lasts "a" swept last s) := by
  intro first last plain swept
  have hplain : ((after (some (1 / 2)) plain).get last "a").1.isSome := by decide +kernel
  have hswept : ((after (some (1 / 2)) swept).get last "a").1 = none := by
    rw [← Option.isNone_iff_eq_none]; decide +kernel
  refine ⟨by decide +kernel, hplain, hswept, ?_⟩
  rintro ⟨lasts, hp, hs⟩
  obtain ⟨s, hfound⟩ := Option.isSome_iff_exists.1 hplain
  -- To a sweep a history pays no regard.
  have hlife : life? "a" swept = life? "a" plain := rfl
  have hsame : Survives lasts "a" swept last s := by
    rw [survives_iff, hlife, ← survives_iff]
    exact (hp s).1 hfound
  rw [(hs s).2 hsame] at hswept
  cases hswept

end Registry

end ChatFlow

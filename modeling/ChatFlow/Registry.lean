import ChatFlow.Log
import ChatFlow.Session

/-!
# The registry of sessions

The sessions in progress, by the id of their conversation. A session that was idle for longer than
the timeout is dropped when it is looked up, or when the registry is swept. `find?_get`,
`find?_create`, `find?_delete` and `find?_purge` say what each operation leaves of every
conversation.
-/

namespace ChatFlow

/-- The sessions in progress, each under the id of its conversation, which has one entry at most.
Without a timeout they never expire. -/
structure Registry where
  idleTimeout : Option Rat
  sessions : Assoc Session
  nodup_keys : sessions.keys.Nodup
  id_of_mem : ∀ e ∈ sessions, e.2.id = e.1

namespace Registry

def empty (timeout : Option Rat) : Registry where
  idleTimeout := timeout
  sessions := []
  nodup_keys := List.nodup_nil
  id_of_mem _ := nofun

/-- The session of a conversation, expired or not. -/
def find? (r : Registry) (id : String) : Option Session := r.sessions.get? id

def isExpired (r : Registry) (now : Instant) (s : Session) : Bool :=
  match r.idleTimeout with
  | some timeout => decide (now.since s.lastActivity > timeout)
  | none => false

def store (r : Registry) (s : Session) : Registry where
  idleTimeout := r.idleTimeout
  sessions := r.sessions.put s.id s
  nodup_keys := Assoc.nodup_keys_put s.id s r.nodup_keys
  id_of_mem e he := by
    rcases Assoc.mem_put he with rfl | he
    · rfl
    · exact r.id_of_mem e he

def restrict (r : Registry) (keep : Session → Bool) : Registry where
  idleTimeout := r.idleTimeout
  sessions := r.sessions.filter fun e => keep e.2
  nodup_keys := r.nodup_keys.sublist (List.filter_sublist.map _)
  id_of_mem e he := r.id_of_mem e (List.mem_filter.1 he).1

def drop (r : Registry) (id : String) : Registry where
  idleTimeout := r.idleTimeout
  sessions := r.sessions.erase id
  nodup_keys := r.nodup_keys.sublist ((Assoc.erase_sublist r.sessions id).map _)
  id_of_mem e he := r.id_of_mem e ((Assoc.erase_sublist r.sessions id).subset he)

def note (message : String) : List Log.Entry := [.plain .session .info message]

/-- Look up a session and mark it active, or drop it if it has expired. -/
def get (r : Registry) (now : Instant) (id : String) :
    Option Session × Registry × List Log.Entry :=
  match r.find? id with
  | none => (none, r, [])
  | some s =>
    if r.isExpired now s then
      (none, r.drop id, note ("Chatbot session for " ++ id ++ " expired"))
    else (some (s.touch now), r.store (s.touch now), [])

def live? (r : Registry) (now : Instant) (id : String) : Option Session :=
  ((r.find? id).filter (! r.isExpired now ·)).map (·.touch now)

/-- Start a session in place of any other of the same conversation. -/
def create (r : Registry) (now : Instant) (id name : String) :
    Session × Registry × List Log.Entry :=
  let s := Session.start now id name
  (s, r.store s, note ("Created chatbot session for " ++ id))

def delete (r : Registry) (id : String) : Registry × List Log.Entry :=
  if r.sessions.has id then (r.drop id, note ("Ended chatbot session for " ++ id)) else (r, [])

/-- Drop every expired session; the count comes first. -/
def purge (r : Registry) (now : Instant) : Nat × Registry × List Log.Entry :=
  let expired := r.sessions.filter fun e => r.isExpired now e.2
  (expired.length, r.restrict (! r.isExpired now ·),
    if expired.isEmpty then []
    else note ("Purged " ++ toString expired.length ++ " expired chatbot sessions"))

/-! ### What the operations leave -/

theorem id_of_find? {r : Registry} {id : String} {s : Session} (h : r.find? id = some s) :
    s.id = id :=
  r.id_of_mem _ (Assoc.mem_of_get? h)

theorem id_of_live? {r : Registry} {now : Instant} {id : String} {s : Session}
    (h : r.live? now id = some s) : s.id = id := by
  obtain ⟨s', hs, rfl⟩ := Option.map_eq_some_iff.1 h
  rw [Session.id_touch]
  exact id_of_find? (Option.filter_eq_some_iff.1 hs).1

/-- A session that has not expired is found, and is active now. -/
theorem live?_of_find? {r : Registry} {now : Instant} {id : String} {s : Session}
    (hs : r.find? id = some s) (hlive : r.isExpired now s = false) :
    r.live? now id = some (s.touch now) := by
  rw [live?, hs, Option.filter_some, hlive]
  rfl

@[simp] theorem find?_store (r : Registry) (s : Session) (id : String) :
    (r.store s).find? id = if s.id = id then some s else r.find? id :=
  Assoc.get?_put ..

@[simp] theorem find?_drop (r : Registry) (id id' : String) :
    (r.drop id).find? id' = if id = id' then none else r.find? id' :=
  Assoc.get?_erase ..

theorem get_eq_live? (r : Registry) (now : Instant) (id : String) :
    (r.get now id).1 = r.live? now id := by
  simp only [get, live?]
  cases r.find? id with
  | none => rfl
  | some s => by_cases h : r.isExpired now s <;> simp [h, Option.filter]

@[simp] theorem idleTimeout_get (r : Registry) (now : Instant) (id : String) :
    (r.get now id).2.1.idleTimeout = r.idleTimeout := by
  simp only [get]
  split
  · rfl
  · split <;> rfl

theorem isExpired_congr {r₁ r₂ : Registry} (h : r₁.idleTimeout = r₂.idleTimeout) (now : Instant)
    (s : Session) : r₁.isExpired now s = r₂.isExpired now s := by
  rw [isExpired, isExpired, h]

/-- A look-up hangs on the session of the conversation and the timeout only. -/
theorem get_congr {r₁ r₂ : Registry} {id : String} (ht : r₁.idleTimeout = r₂.idleTimeout)
    (hf : r₁.find? id = r₂.find? id) (now : Instant) :
    (r₁.get now id).1 = (r₂.get now id).1 ∧ (r₁.get now id).2.2 = (r₂.get now id).2.2 := by
  simp only [get, hf]
  cases r₂.find? id with
  | none => exact ⟨rfl, rfl⟩
  | some s => simp only [isExpired_congr ht]; split <;> exact ⟨rfl, rfl⟩

theorem live?_congr {r₁ r₂ : Registry} {id : String} (ht : r₁.idleTimeout = r₂.idleTimeout)
    (hf : r₁.find? id = r₂.find? id) (now : Instant) : r₁.live? now id = r₂.live? now id := by
  rw [← get_eq_live?, ← get_eq_live?]
  exact (get_congr ht hf now).1

/-- A look-up leaves the session that it finds, and nothing if it finds none. -/
theorem find?_get (r : Registry) (now : Instant) (id id' : String) :
    (r.get now id).2.1.find? id' = if id = id' then r.live? now id else r.find? id' := by
  simp only [get, live?]
  cases hs : r.find? id with
  | none =>
    by_cases h : id = id'
    · subst h; simp [hs]
    · simp [h]
  | some s =>
    by_cases he : r.isExpired now s
    · simp [he, Option.filter]
    · have hid : s.id = id := id_of_find? hs
      simp [he, Option.filter, hid]

theorem find?_create (r : Registry) (now : Instant) (id name id' : String) :
    (r.create now id name).2.1.find? id' =
      if id = id' then some (Session.start now id name) else r.find? id' :=
  find?_store ..

theorem find?_delete (r : Registry) (id id' : String) :
    (r.delete id).1.find? id' = if id = id' then none else r.find? id' := by
  unfold delete
  split
  · exact find?_drop ..
  · rename_i h
    by_cases hid : id = id'
    · subst hid; simpa [find?, Assoc.has] using h
    · simp [hid]

/-- A sweep leaves the sessions that have not expired. -/
theorem find?_purge (r : Registry) (now : Instant) (id : String) :
    (r.purge now).2.1.find? id = (r.find? id).filter (! r.isExpired now ·) :=
  Assoc.get?_filter (! r.isExpired now ·) r.nodup_keys id

end Registry

end ChatFlow

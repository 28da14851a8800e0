import ChatFlow.Proofs.Bot.Activity
import ChatFlow.Proofs.Decimal.Rounding
import ChatFlow.Proofs.Isolation

/-!
# Sweeps are not noticed

A sweep drops the sessions that have expired, and a look-up would not have found them any more: a
session that has expired at one reading of the clock has at every later one, as long as the clock
keeps to one kind of number where it matters (`Instant.since_mono`). So a registry that is swept in
between differs from one that is not by sessions that no look-up finds (`Registry.SweptTo`), and
messages are handled alike (`sweeps_are_not_noticed`).
-/

namespace ChatFlow

/-! ### Spans of time -/

namespace Instant

/-- It makes no difference to these readings that whole ones are kept exactly: all of them are whole,
or the whole ones and the spans between them have fifty-three binary digits at most. -/
def Steady (T : List Instant) : Prop :=
  (∀ t ∈ T, t.isWhole = true) ∨
    ∀ t ∈ T, t.isWhole = true → (∃ n : ℤ, t.seconds = n ∧ |n| ≤ 2 ^ 53) ∧
      ∀ t' ∈ T, t'.isWhole = true → |t.seconds - t'.seconds| ≤ 2 ^ 53

variable {T : List Instant} {t t' last : Instant}

theorem Steady.of_subset {T' : List Instant} (h : Steady T) (hT : T' ⊆ T) : Steady T' :=
  h.imp (fun hw t ht => hw t (hT ht))
    fun hn t ht hw => ⟨(hn t (hT ht) hw).1, fun t' ht' => (hn t (hT ht) hw).2 t' (hT ht')⟩

/-- Readings within fifty-three digits might as well be doubles. -/
theorem since_eq_rounded
    (hT : ∀ t ∈ T, t.isWhole = true → (∃ n : ℤ, t.seconds = n ∧ |n| ≤ 2 ^ 53) ∧
      ∀ t' ∈ T, t'.isWhole = true → |t.seconds - t'.seconds| ≤ 2 ^ 53)
    (ht : t ∈ T) (hlast : last ∈ T) :
    t.since last = Binary64.rounded (t.seconds - last.seconds) := by
  have own {u : Instant} (hu : u ∈ T) : u.rounded = u.seconds := by
    unfold rounded
    split
    · rename_i hw
      obtain ⟨n, hn, hle⟩ := (hT u hu hw).1
      rw [hn, Binary64.rounded_intCast hle]
    · rfl
  unfold since
  split
  · rename_i hw
    obtain ⟨hwt, hwl⟩ := Bool.and_eq_true_iff.1 hw
    obtain ⟨⟨n, hn, -⟩, hspan⟩ := hT t ht hwt
    obtain ⟨⟨m, hm, -⟩, -⟩ := hT last hlast hwl
    have hle := hspan last hlast hwl
    rw [hn, hm, ← Int.cast_sub] at hle ⊢
    exact (Binary64.rounded_intCast (by exact_mod_cast hle)).symm
  · rw [own ht, own hlast]

theorem since_mono (hT : Steady T) (ht : t ∈ T) (ht' : t' ∈ T) (hlast : last ∈ T)
    (h : t.seconds ≤ t'.seconds) : t.since last ≤ t'.since last := by
  have hspan : t.seconds - last.seconds ≤ t'.seconds - last.seconds := sub_le_sub_right h _
  rcases hT with hw | hT
  · rw [since, since, hw t ht, hw t' ht', hw last hlast]
    exact hspan
  · rw [since_eq_rounded hT ht hlast, since_eq_rounded hT ht' hlast]
    exact Binary64.rounded_mono hspan

end Instant

/-! ### Swept registries -/

namespace Registry

/-- `r'` is `r` but for sessions that have expired at all of the readings `ts`. -/
structure SweptTo (ts : List Instant) (r r' : Registry) : Prop where
  idleTimeout : r'.idleTimeout = r.idleTimeout
  find? : ∀ id, r'.find? id = r.find? id ∨
    r'.find? id = none ∧ ∀ s, r.find? id = some s → ∀ t ∈ ts, r.isExpired t s = true

/-- When the sessions of a registry were last active. -/
def activity (r : Registry) : List Instant := r.sessions.map (·.2.lastActivity)

/-- The sessions of a registry were last active at some of the readings `T`. -/
def Knows (T : List Instant) (r : Registry) : Prop :=
  ∀ id s, r.find? id = some s → s.lastActivity ∈ T

variable {T ts : List Instant} {r r' : Registry} {t t' : Instant}

theorem SweptTo.refl (ts : List Instant) (r : Registry) : SweptTo ts r r :=
  ⟨rfl, fun _ => Or.inl rfl⟩

theorem SweptTo.of_subset {ts' : List Instant} (h : SweptTo ts r r') (hts : ts' ⊆ ts) :
    SweptTo ts' r r' :=
  ⟨h.idleTimeout, fun id => (h.find? id).imp_right fun ⟨hno, he⟩ =>
    ⟨hno, fun s hs t ht => he s hs t (hts ht)⟩⟩

theorem knows_activity (r : Registry) : r.Knows r.activity :=
  fun id s hs => List.mem_map.2 ⟨(id, s), Assoc.mem_of_get? hs, rfl⟩

theorem isExpired_mono {s : Session} (hT : Instant.Steady T) (ht : t ∈ T) (ht' : t' ∈ T)
    (hs : s.lastActivity ∈ T) (h : t.seconds ≤ t'.seconds) (he : r.isExpired t s = true) :
    r.isExpired t' s = true := by
  unfold isExpired at he ⊢
  split at he
  · rw [decide_eq_true_iff] at he ⊢
    exact lt_of_lt_of_le he (Instant.since_mono hT ht ht' hs h)
  · cases he

/-- A look-up does not tell a swept registry from the other. -/
theorem SweptTo.live? (h : SweptTo ts r r') (ht : t ∈ ts) (id : String) :
    r'.live? t id = r.live? t id := by
  rcases h.find? id with heq | ⟨hno, he⟩
  · exact live?_congr h.idleTimeout heq t
  · rw [Registry.live?, Registry.live?, hno]
    cases hs : r.find? id with
    | none => rfl
    | some s => rw [Option.filter_some, he s hs t ht]; rfl

theorem SweptTo.purge (h : SweptTo ts r r') (hT : Instant.Steady T) (hk : r.Knows T) (ht : t ∈ T)
    (hts : ∀ t' ∈ ts, t' ∈ T ∧ t.seconds ≤ t'.seconds) : SweptTo ts r (r'.purge t).2.1 where
  idleTimeout := h.idleTimeout
  find? id := by
    rw [find?_purge]
    rcases h.find? id with heq | ⟨hno, he⟩
    · rw [heq]
      cases hs : r.find? id with
      | none => exact Or.inl rfl
      | some s =>
        rw [Option.filter_some, isExpired_congr h.idleTimeout]
        cases hexp : r.isExpired t s with
        | false => exact Or.inl rfl
        | true =>
          refine Or.inr ⟨rfl, fun s' hs' t' ht' => ?_⟩
          cases hs'
          exact isExpired_mono hT ht (hts t' ht').1 (hk id s hs) (hts t' ht').2 hexp
    · exact Or.inr ⟨by rw [hno]; rfl, he⟩

end Registry

/-! ### Runs -/

/-- What a bot is called for: a message, or a sweep of its registry. -/
inductive Occasion where
  | message (now : Instant) (id text name : String)
  | sweep (now : Instant)

namespace Occasion

def now : Occasion → Instant
  | message now .. => now
  | sweep now => now

def isMessage : Occasion → Bool
  | message .. => true
  | sweep _ => false

end Occasion

namespace Bot

variable {κ : Type}

/-- Go through some occasions. For each message stands what happens then, the log apart, and the
session that its conversation has afterwards. -/
def attend (b : Bot κ) : State κ → List Occasion → State κ × List (List Event × Option Session)
  | st, [] => (st, [])
  | st, .message now id text name :: os =>
    let (st, events) := b.handle st now id text name
    let (last, later) := b.attend st os
    (last, (Event.deeds events, st.registry.find? id) :: later)
  | st, .sweep now :: os => b.attend ⟨(st.registry.purge now).2.1, st.world⟩ os

variable {T ts : List Instant} {st st' : State κ}

theorem sweptTo_handle (b : Bot κ) (h : st.registry.SweptTo ts st'.registry)
    (hworld : st'.world = st.world) {now : Instant} (hnow : now ∈ ts) (id text name : String) :
    let p' := b.handle st' now id text name
    let p := b.handle st now id text name
    Event.deeds p'.2 = Event.deeds p.2 ∧ p'.1.registry.find? id = p.1.registry.find? id ∧
      p'.1.world = p.1.world ∧ p.1.registry.SweptTo ts p'.1.registry := by
  obtain ⟨hdeeds, hfind, hw⟩ := handle_alike b b rfl rfl (.refl b.outside) st' st now id text name
    hworld (h.live? hnow id)
  refine ⟨hdeeds, hfind, hw, ?_, fun c => ?_⟩
  · rw [idleTimeout_handle, idleTimeout_handle, h.idleTimeout]
  · by_cases hc : id = c
    · exact Or.inl (hc ▸ hfind)
    · rw [find?_handle, find?_handle, if_neg hc, if_neg hc]
      refine (h.find? c).imp_right fun ⟨hno, he⟩ => ⟨hno, fun s hs t ht => ?_⟩
      rw [Registry.isExpired_congr (b.idleTimeout_handle st now id text name)]
      exact he s hs t ht

theorem knows_handle (b : Bot κ) (h : st.registry.Knows T) {now : Instant} (hnow : now ∈ T)
    (id text name : String) : (b.handle st now id text name).1.registry.Knows T := by
  intro c s hs
  rcases b.lastActivity_handle st now id text name hs with rfl | hs
  · exact hnow
  · exact h c s hs

/-- Whatever the sweeps in between, all messages are met alike, and what is left is a swept registry. -/
theorem sweptTo_attend (b : Bot κ) (hT : Instant.Steady T) {os : List Occasion}
    (hos : ∀ o ∈ os, o.now ∈ T) (hts : ∀ t ∈ ts, t ∈ T)
    (hsorted : (os.map (·.now) ++ ts).Pairwise (·.seconds ≤ ·.seconds))
    (hk : st.registry.Knows T) (hworld : st'.world = st.world)
    (h : st.registry.SweptTo (os.map (·.now) ++ ts) st'.registry) :
    let swept := b.attend st' os
    let plain := b.attend st (os.filter (·.isMessage))
    swept.2 = plain.2 ∧ swept.1.world = plain.1.world ∧
      plain.1.registry.SweptTo ts swept.1.registry := by
  induction os generalizing st st' with
  | nil => exact ⟨rfl, hworld, h⟩
  | cons o os ih =>
    obtain ⟨hfirst, hsorted'⟩ := List.pairwise_cons.1 hsorted
    have hnow : o.now ∈ T := hos o List.mem_cons_self
    have hos' : ∀ o ∈ os, o.now ∈ T := fun o ho => hos o (List.mem_cons_of_mem _ ho)
    have hrest : os.map (·.now) ++ ts ⊆ (o :: os).map (·.now) ++ ts :=
      List.subset_cons_self ..
    cases o with
    | message now id text name =>
      obtain ⟨hdeeds, hfind, hw, hswept⟩ :=
        b.sweptTo_handle h hworld List.mem_cons_self id text name
      obtain ⟨hlater, hlast, hend⟩ := ih hos' hsorted' (b.knows_handle hk hnow id text name) hw
        (hswept.of_subset hrest)
      exact ⟨congrArg₂ List.cons (Prod.ext hdeeds hfind) hlater, hlast, hend⟩
    | sweep now =>
      refine ih hos' hsorted' hk hworld ((h.of_subset hrest).purge hT hk hnow fun t' ht' => ⟨?_, ?_⟩)
      · rcases List.mem_append.1 ht' with ht' | ht'
        · obtain ⟨o, ho, rfl⟩ := List.mem_map.1 ht'
          exact hos' o ho
        · exact hts t' ht'
      · exact hfirst t' ht'

/-- Sweeps are not noticed. However messages and sweeps follow each other at readings of the clock
that never go back, each message sends the same, calls the same and leaves its conversation the same
session as without the sweeps, and no later look-up tells the two registries apart; provided that it
makes no difference to the readings that whole ones are kept exactly. -/
theorem sweeps_are_not_noticed (b : Bot κ) (st : State κ) {os : List Occasion}
    (hsteady : Instant.Steady (st.registry.activity ++ os.map (·.now)))
    (hsorted : (os.map (·.now)).Pairwise (·.seconds ≤ ·.seconds)) :
    let swept := b.attend st os
    let plain := b.attend st (os.filter (·.isMessage))
    swept.2 = plain.2 ∧ swept.1.world = plain.1.world ∧
      ∀ later, Instant.Steady (later :: (st.registry.activity ++ os.map (·.now))) →
        (∀ o ∈ os, o.now.seconds ≤ later.seconds) →
        ∀ id, (swept.1.registry.get later id).1 = (plain.1.registry.get later id).1 := by
  intro swept plain
  have known {T : List Instant} (hT : st.registry.activity ⊆ T) : st.registry.Knows T :=
    fun id s hs => hT (st.registry.knows_activity id s hs)
  have run (ts : List Instant) {T : List Instant} (hT : Instant.Steady T)
      (hactivity : st.registry.activity ⊆ T) (hos : ∀ o ∈ os, o.now ∈ T) (hts : ∀ t ∈ ts, t ∈ T)
      (hsorted : (os.map (·.now) ++ ts).Pairwise (·.seconds ≤ ·.seconds)) :
      swept.2 = plain.2 ∧ swept.1.world = plain.1.world ∧
        plain.1.registry.SweptTo ts swept.1.registry :=
    b.sweptTo_attend hT hos hts hsorted (known hactivity) rfl (.refl _ _)
  have occasion {o : Occasion} (ho : o ∈ os) : o.now ∈ st.registry.activity ++ os.map (·.now) :=
    List.mem_append_right _ (List.mem_map_of_mem ho)
  obtain ⟨hrecords, hworld, -⟩ := run [] hsteady (List.subset_append_left ..)
    (fun o ho => occasion ho) nofun (by rwa [List.append_nil])
  refine ⟨hrecords, hworld, fun later hlater hle id => ?_⟩
  have hend : (os.map (·.now) ++ [later]).Pairwise (·.seconds ≤ ·.seconds) := by
    rw [List.pairwise_append]
    refine ⟨hsorted, List.pairwise_singleton .., fun t ht t' ht' => ?_⟩
    obtain ⟨o, ho, rfl⟩ := List.mem_map.1 ht
    rw [List.mem_singleton.1 ht']
    exact hle o ho
  obtain ⟨-, -, hswept⟩ := run [later] hlater
    (List.subset_cons_of_subset _ (List.subset_append_left ..))
    (fun o ho => List.mem_cons_of_mem _ (occasion ho))
    (fun t ht => List.mem_cons.2 (Or.inl (List.mem_singleton.1 ht))) hend
  rw [Registry.get_eq_live?, Registry.get_eq_live?]
  exact hswept.live? List.mem_cons_self id

/-- A session that is idle for too long is swept away, and the next message starts a new one all the
same. -/
theorem sweeps_are_not_noticed_of_idle :
    let ask : Node := ⟨some "1", .question, [("question", .obj [("text", .str "Name?")])], []⟩
    let w : Workflow := ⟨⟨none, .other "Trigger", [], [ask]⟩, [("1", ask)], "greeting", fun h => by
      cases List.mem_singleton.1 (Assoc.mem_of_get? h)
      exact Node.mem_preorder_of_child List.mem_cons_self (Node.mem_preorder_self _)⟩
    let o : Outside Unit := ⟨fun _ _ => (.ok (), [], ()), fun _ _ => (none, ()), fun _ => none⟩
    let b : Bot Unit := ⟨w, ⟨3, 3, Rules.standardListButton⟩, o⟩
    let st : State Unit := ⟨.empty (some 60), ()⟩
    let greeted := (b.handle st (.ofInt 0) "a" "hello" "Ada").1
    let os : List Occasion := [.message (.ofInt 0) "a" "hello" "Ada", .sweep (.ofInt 100),
      .message (.ofInt 200) "a" "Bob" "Ada"]
    (greeted.registry.find? "a").isSome ∧
      (greeted.registry.purge (.ofInt 100)).2.1.find? "a" = none ∧
      (b.attend st os).2 = (b.attend st (os.filter (·.isMessage))).2 := by
  intro ask w o b st greeted os
  have hask : ask ∈ w.root.preorder :=
    Node.mem_preorder_of_child List.mem_cons_self (Node.mem_preorder_self _)
  have hturn : b.turn st (.ofInt 0) "a" "hello" "Ada" =
      (Turn.start (Session.start (.ofInt 0) "a" "Ada") ()).run o w b.rules ask hask := rfl
  let s : Session := { Session.start (.ofInt 0) "a" "Ada" with waiting := some "1" }
  have hs : greeted.registry.find? "a" = some s := by
    rw [find?_handle, if_pos rfl, hturn, Turn.run_of_none hask rfl]; rfl
  have hexpired : greeted.registry.isExpired (.ofInt 100) s = true := by
    rw [Registry.isExpired_congr (b.idleTimeout_handle st (.ofInt 0) "a" "hello" "Ada")]
    decide +kernel
  have hsteady : Instant.Steady (st.registry.activity ++ os.map (·.now)) :=
    Or.inl (by decide +kernel)
  refine ⟨by rw [hs]; rfl, ?_, ?_⟩
  · rw [Registry.find?_purge, hs, Option.filter_some, hexpired]; rfl
  · exact (sweeps_are_not_noticed b st hsteady (by decide +kernel)).1

/-- Past fifty-three digits a whole clock is more exact than doubles are: a sweep finds a session idle
for a second, and at the same time, read as a double, a look-up finds it just heard of. -/
theorem sweep_noticed_between_doubles :
    let ask : Node := ⟨some "1", .question, [("question", .obj [("text", .str "Name?")])], []⟩
    let w : Workflow := ⟨⟨none, .other "Trigger", [], [ask]⟩, [("1", ask)], "greeting", fun h => by
      cases List.mem_singleton.1 (Assoc.mem_of_get? h)
      exact Node.mem_preorder_of_child List.mem_cons_self (Node.mem_preorder_self _)⟩
    let o : Outside Unit := ⟨fun _ _ => (.ok (), [], ()), fun _ _ => (none, ()), fun _ => none⟩
    let b : Bot Unit := ⟨w, ⟨3, 3, Rules.standardListButton⟩, o⟩
    let st : State Unit := ⟨.empty (some (1 / 2)), ()⟩
    let os : List Occasion := [.message (.ofInt 9007199254740995) "a" "hello" "Ada",
      .sweep (.ofInt 9007199254740996), .message ⟨9007199254740996, false, false⟩ "a" "Bob" "Ada"]
    (os.map (·.now)).Pairwise (·.seconds ≤ ·.seconds) ∧
      (b.attend st os).2.map (·.2.bind (·.waiting)) = [some "1", some "1"] ∧
      (b.attend st (os.filter (·.isMessage))).2.map (·.2.bind (·.waiting)) = [some "1", none] ∧
      (b.attend st os).2 ≠ (b.attend st (os.filter (·.isMessage))).2 := by
  intro ask w o b st os
  let first : Instant := .ofInt 9007199254740995
  let last : Instant := ⟨9007199254740996, false, false⟩
  have hask : ask ∈ w.root.preorder :=
    Node.mem_preorder_of_child List.mem_cons_self (Node.mem_preorder_self _)
  have asks (now : Instant) (st : State Unit) (text : String) (hl : st.registry.live? now "a" = none) :
      (b.handle st now "a" text "Ada").1.registry.find? "a" =
        some { Session.start now "a" "Ada" with waiting := some "1" } := by
    have hturn : b.turn st now "a" text "Ada" =
        (Turn.start (Session.start now "a" "Ada") st.world).run o w b.rules ask hask := by
      rw [turn, hl]; rfl
    rw [find?_handle, if_pos rfl, hturn, Turn.run_of_none hask rfl]; rfl
  let greeted := (b.handle st first "a" "hello" "Ada").1
  let s : Session := { Session.start first "a" "Ada" with waiting := some "1" }
  have hs : greeted.registry.find? "a" = some s := asks first st "hello" rfl
  have expired (now : Instant) : greeted.registry.isExpired now s = st.registry.isExpired now s :=
    Registry.isExpired_congr (b.idleTimeout_handle st first "a" "hello" "Ada") now s
  have hswept : (greeted.registry.purge (.ofInt 9007199254740996)).2.1.live? last "a" = none := by
    have hexp : greeted.registry.isExpired (.ofInt 9007199254740996) s = true := by
      rw [expired]; decide +kernel
    rw [Registry.live?, Registry.find?_purge, hs, Option.filter_some, hexp]; rfl
  have hfound : greeted.registry.live? last "a" = some (s.touch last) := by
    have hexp : greeted.registry.isExpired last s = false := by rw [expired]; decide +kernel
    rw [Registry.live?, hs, Option.filter_some, hexp]; rfl
  have hasked := asks last ⟨(greeted.registry.purge (.ofInt 9007199254740996)).2.1, greeted.world⟩
    "Bob" hswept
  have hanswered : (b.handle greeted last "a" "Bob" "Ada").1.registry.find? "a" =
      some { Session.start last "a" "Ada" with waiting := none } := by
    have hturn : b.turn greeted last "a" "Bob" "Ada" =
        ((Turn.start (s.touch last) greeted.world).answer b.rules ask "Bob").2 := by
      rw [turn, hfound]
      show (Turn.start (s.touch last) greeted.world).resume o w b.rules "Bob" = _
      exact (Turn.resume_of_some (n := ask) rfl).trans (Turn.judge_of_none hask rfl)
    rw [find?_handle, if_pos rfl, hturn]; rfl
  have hnoticed : (b.attend st os).2.map (·.2.bind (·.waiting)) = [some "1", some "1"] := by
    show [(greeted.registry.find? "a").bind (·.waiting), _] = _
    rw [hs]
    exact congrArg (fun f : Option Session => [some "1", f.bind (·.waiting)]) hasked
  have hplain : (b.attend st (os.filter (·.isMessage))).2.map (·.2.bind (·.waiting)) =
      [some "1", none] := by
    show [(greeted.registry.find? "a").bind (·.waiting), _] = _
    rw [hs]
    exact congrArg (fun f : Option Session => [some "1", f.bind (·.waiting)]) hanswered
  refine ⟨by decide +kernel, hnoticed, hplain, fun h => ?_⟩
  rw [h, hplain] at hnoticed
  cases hnoticed

end Bot

end ChatFlow

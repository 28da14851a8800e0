import ChatFlow.Proofs.Bot.Handle
import ChatFlow.Proofs.Turn.Alike

/-!
# Conversations do not touch each other

Handling a message of a conversation sends, calls and leaves what the session of that conversation
and the world outside make of it, whatever else the registry holds; every other session stays as it
was (`isolated_conversations`). So in a stream of messages of many conversations each of them goes as
if its messages were the only ones.
-/

namespace ChatFlow

/-- A message as it arrives, and the state that the world outside is in then. -/
structure Arrival (κ : Type) where
  conversation : String
  text : String
  name : String
  now : Instant
  world : κ

namespace Bot

variable {κ κ₁ κ₂ : Type}

/-- Take messages one after the other. Beside each conversation stands what happened in it. -/
def serve (b : Bot κ) (r : Registry) : List (Arrival κ) → Registry × List (String × List Event)
  | [] => (r, [])
  | a :: as =>
    let (st, events) := b.handle ⟨r, a.world⟩ a.now a.conversation a.text a.name
    let (r, later) := serve b st.registry as
    (r, (a.conversation, events) :: later)

/-- The messages that were sent while others were taken. -/
def sends (history : List (String × List Event)) : List Outbound :=
  history.flatMap fun e => Event.messages e.2

theorem alike_turn (b₁ : Bot κ₁) (b₂ : Bot κ₂) {R : κ₁ → κ₂ → Prop}
    (hw : b₁.workflow = b₂.workflow) (hr : b₁.rules = b₂.rules)
    (ho : b₁.outside.Alike b₂.outside R) (st₁ : State κ₁) (st₂ : State κ₂) (now : Instant)
    (id text name : String) (hst : R st₁.world st₂.world)
    (hlive : st₁.registry.live? now id = st₂.registry.live? now id) :
    (b₁.turn st₁ now id text name).Alike R (b₂.turn st₂ now id text name) := by
  obtain ⟨w, r, o₁⟩ := b₁
  obtain ⟨_, _, o₂⟩ := b₂
  obtain rfl : w = _ := hw
  obtain rfl : r = _ := hr
  have fresh (s : Session) : (Turn.start s st₁.world).Alike R (Turn.start s st₂.world) :=
    ⟨rfl, rfl, hst, rfl⟩
  unfold turn
  rw [hlive]
  cases st₂.registry.live? now id with
  | none => exact (fresh _).runFrom ho w r _ _
  | some s =>
    unfold hear
    simp only [Turn.start]
    cases s.pending? with
    | none => exact (fresh s).note _ _
    | some q => exact (fresh s).resume ho w r text

theorem handle_alike (b₁ : Bot κ₁) (b₂ : Bot κ₂) {R : κ₁ → κ₂ → Prop}
    (hw : b₁.workflow = b₂.workflow) (hr : b₁.rules = b₂.rules)
    (ho : b₁.outside.Alike b₂.outside R) (st₁ : State κ₁) (st₂ : State κ₂) (now : Instant)
    (id text name : String) (hst : R st₁.world st₂.world)
    (hlive : st₁.registry.live? now id = st₂.registry.live? now id) :
    Event.deeds (b₁.handle st₁ now id text name).2 =
        Event.deeds (b₂.handle st₂ now id text name).2 ∧
      (b₁.handle st₁ now id text name).1.registry.find? id =
        (b₂.handle st₂ now id text name).1.registry.find? id ∧
      R (b₁.handle st₁ now id text name).1.world (b₂.handle st₂ now id text name).1.world := by
  have ht := alike_turn b₁ b₂ hw hr ho st₁ st₂ now id text name hst hlive
  refine ⟨?_, ?_, ?_⟩
  · obtain ⟨_, log₁, h₁, -⟩ := b₁.handle_eq st₁ now id text name
    obtain ⟨_, log₂, h₂, -⟩ := b₂.handle_eq st₂ now id text name
    simp [h₁, h₂, ht.deeds]
  · rw [find?_handle, find?_handle, if_pos rfl, if_pos rfl, ht.isLive, ht.session]
  · rw [world_handle, world_handle]
    exact ht.world

theorem recipient_handle (b : Bot κ) (st : State κ) (now : Instant) (id text name : String) :
    ∀ m ∈ Event.messages (b.handle st now id text name).2, m.recipient = id := by
  intro m hm
  rw [Event.messages, filterMap_handle b st now id text name fun _ => rfl] at hm
  obtain ⟨e, he, hs⟩ := List.mem_filterMap.1 hm
  cases e with
  | sent m' => cases hs; exact b.recipient_turn st now id text name he
  | _ => cases hs

/-- What happens, log and all, hangs on the session of the conversation and the timeout only. -/
theorem handle_congr (b : Bot κ) {r₁ r₂ : Registry} {id : String} (now : Instant)
    (text name : String) (world : κ) (ht : r₁.idleTimeout = r₂.idleTimeout)
    (hf : r₁.find? id = r₂.find? id) :
    (b.handle ⟨r₁, world⟩ now id text name).2 = (b.handle ⟨r₂, world⟩ now id text name).2 ∧
      (b.handle ⟨r₁, world⟩ now id text name).1.registry.find? id =
        (b.handle ⟨r₂, world⟩ now id text name).1.registry.find? id := by
  have hlive := Registry.live?_congr ht hf now
  constructor
  · unfold handle
    have hg := Registry.get_congr ht hf now
    match h₁ : r₁.get now id, h₂ : r₂.get now id with
    | (none, _, _), (none, _, _) => simp_all [start, Registry.create]
    | (some s, _, _), (some s', _, _) => simp_all
    | (none, _, _), (some s, _, _) => simp_all
    | (some s, _, _), (none, _, _) => simp_all
  · exact (handle_alike b b rfl rfl (.refl b.outside) ⟨r₁, world⟩ ⟨r₂, world⟩ now id text name rfl
      hlive).2.1

/-- Whatever comes in between, a conversation goes as if its messages were the only ones. -/
theorem serve_filter (b : Bot κ) (c : String) (as : List (Arrival κ)) (r₁ r₂ : Registry)
    (ht : r₁.idleTimeout = r₂.idleTimeout) (hf : r₁.find? c = r₂.find? c) :
    (b.serve r₁ as).2.filter (·.1 = c) = (b.serve r₂ (as.filter (·.conversation = c))).2 ∧
      (b.serve r₁ as).1.find? c = (b.serve r₂ (as.filter (·.conversation = c))).1.find? c := by
  induction as generalizing r₁ r₂ with
  | nil => exact ⟨rfl, hf⟩
  | cons a as ih =>
    by_cases hc : a.conversation = c
    · subst hc
      obtain ⟨he, hs⟩ := handle_congr b a.now a.text a.name a.world ht hf
      have ht' : (b.handle ⟨r₁, a.world⟩ a.now a.conversation a.text a.name).1.registry.idleTimeout =
          (b.handle ⟨r₂, a.world⟩ a.now a.conversation a.text a.name).1.registry.idleTimeout := by
        rw [idleTimeout_handle, idleTimeout_handle, ht]
      obtain ⟨ihe, ihf⟩ := ih _ _ ht' hs
      refine ⟨?_, ?_⟩
      · simpa [serve, he] using ihe
      · simpa [serve] using ihf
    · -- Somebody else's message: alone, `c` has nothing to handle here, so `r₂` stays as it is.
      have hother : (b.handle ⟨r₁, a.world⟩ a.now a.conversation a.text a.name).1.registry.find? c =
          r₂.find? c := by rw [find?_handle, if_neg hc, hf]
      obtain ⟨ihe, ihf⟩ := ih _ r₂ (by rw [idleTimeout_handle, ht]) hother
      refine ⟨?_, ?_⟩
      · simpa [serve, hc] using ihe
      · simpa [serve, hc] using ihf

theorem recipient_serve (b : Bot κ) (r : Registry) (as : List (Arrival κ)) :
    ∀ e ∈ (b.serve r as).2, ∀ m ∈ Event.messages e.2, m.recipient = e.1 := by
  induction as generalizing r with
  | nil => nofun
  | cons a as ih =>
    intro e he
    rcases List.mem_cons.1 he with rfl | he
    · exact b.recipient_handle _ _ _ _ _
    · exact ih _ e he

theorem filter_sends {history : List (String × List Event)}
    (h : ∀ e ∈ history, ∀ m ∈ Event.messages e.2, m.recipient = e.1) (c : String) :
    (sends history).filter (·.recipient = c) = sends (history.filter (·.1 = c)) := by
  induction history with
  | nil => rfl
  | cons e es ih =>
    have hes := ih fun e' he' => h e' (List.mem_cons_of_mem _ he')
    have he := h e List.mem_cons_self
    simp only [sends, List.flatMap_cons, List.filter_append] at hes ⊢
    by_cases hc : e.1 = c
    · have hall : (Event.messages e.2).filter (·.recipient = c) = Event.messages e.2 :=
        List.filter_eq_self.2 fun m hm => decide_eq_true ((he m hm).trans hc)
      rw [List.filter_cons_of_pos (by simpa using hc), List.flatMap_cons, hall, hes]
    · have hnone : (Event.messages e.2).filter (·.recipient = c) = [] :=
        List.filter_eq_nil_iff.2 fun m hm h => hc ((he m hm).symm.trans (of_decide_eq_true h))
      rw [List.filter_cons_of_neg (by simpa using hc), hnone, hes, List.nil_append]

/-- Conversations are isolated. Two bots with the same workflow and rules, in worlds that answer
alike and with registries that agree on the session of `c`, handle a message of `c` alike, and send
to nobody else; no other session changes. In a stream of messages each conversation goes as if its
messages were the only ones. Where no live session is found, nothing of an earlier one is seen. -/
theorem isolated_conversations {w : Workflow} {rules : Rules} {o₁ : Outside κ₁} {o₂ : Outside κ₂}
    {R : κ₁ → κ₂ → Prop} (ho : o₁.Alike o₂ R) (c : String) :
    let b₁ : Bot κ₁ := ⟨w, rules, o₁⟩
    let b₂ : Bot κ₂ := ⟨w, rules, o₂⟩
    (∀ (st₁ : State κ₁) (st₂ : State κ₂) (now : Instant) (text name : String),
      R st₁.world st₂.world →
      st₁.registry.live? now c = st₂.registry.live? now c →
      let p₁ := b₁.handle st₁ now c text name
      let p₂ := b₂.handle st₂ now c text name
      Event.messages p₁.2 = Event.messages p₂.2 ∧
      (∀ m ∈ Event.messages p₁.2, m.recipient = c) ∧
      Event.calls p₁.2 = Event.calls p₂.2 ∧
      p₁.1.registry.find? c = p₂.1.registry.find? c ∧
      R p₁.1.world p₂.1.world ∧
      ∀ c' ≠ c, p₁.1.registry.find? c' = st₁.registry.find? c') ∧
    (∀ (r r' : Registry) (as : List (Arrival κ₁)),
      r.idleTimeout = r'.idleTimeout → r.find? c = r'.find? c →
      let all := b₁.serve r as
      let alone := b₁.serve r' (as.filter (·.conversation = c))
      (sends all.2).filter (·.recipient = c) = sends alone.2 ∧
      all.2.filter (·.1 = c) = alone.2 ∧
      all.1.find? c = alone.1.find? c) ∧
    ∀ (st : State κ₁) (now : Instant) (text name : String),
      st.registry.live? now c = none →
      let p := b₁.handle st now c text name
      let fresh := b₁.handle ⟨.empty st.registry.idleTimeout, st.world⟩ now c text name
      Event.deeds p.2 = Event.deeds fresh.2 ∧
      p.1.registry.find? c = fresh.1.registry.find? c := by
  intro b₁ b₂
  have sent (es : List Event) : Event.messages (Event.deeds es) = Event.messages es :=
    Event.filterMap_deeds (fun _ => rfl) es
  have called (es : List Event) : Event.calls (Event.deeds es) = Event.calls es :=
    Event.filterMap_deeds (fun _ => rfl) es
  refine ⟨fun st₁ st₂ now text name hst hlive => ?_, fun r r' as ht hf => ?_,
    fun st now text name hlive => ?_⟩
  · obtain ⟨hd, hf, hR⟩ := handle_alike b₁ b₂ rfl rfl ho st₁ st₂ now c text name hst hlive
    refine ⟨?_, b₁.recipient_handle _ _ _ _ _, ?_, hf, hR, fun c' hc => ?_⟩
    · rw [← sent, hd, sent]
    · rw [← called, hd, called]
    · rw [find?_handle, if_neg (Ne.symm hc)]
  · obtain ⟨he, hf⟩ := b₁.serve_filter c as r r' ht hf
    exact ⟨by rw [filter_sends (recipient_serve b₁ r as), he], he, hf⟩
  · obtain ⟨hd, hf, -⟩ := handle_alike b₁ b₁ rfl rfl (.refl o₁) st
      ⟨.empty st.registry.idleTimeout, st.world⟩ now c text name rfl
      (by rw [hlive]; rfl)
    exact ⟨hd, hf⟩

/-- An expired session and that of another customer are as good as none. -/
theorem isolated_conversations_after_expiry :
    let ask : Node := ⟨some "1", .question, [("question", .obj [("text", .str "Name?")])], []⟩
    let w : Workflow := ⟨⟨none, .other "Trigger", [], [ask]⟩, [("1", ask)], "greeting", fun h => by
      cases List.mem_singleton.1 (Assoc.mem_of_get? h)
      exact Node.mem_preorder_of_child List.mem_cons_self (Node.mem_preorder_self _)⟩
    let o : Outside Unit := ⟨fun _ _ => (.ok (), [], ()), fun _ _ => (none, ()), fun _ => none⟩
    let b : Bot Unit := ⟨w, ⟨3, 3, Rules.standardListButton⟩, o⟩
    let old : Session := { Session.start (.ofInt 0) "a" "Ada" with waiting := some "1" }
    let r : Registry := ((Registry.empty (some 60)).store old).store
      (Session.start (.ofInt 90) "b" "Ben")
    let p := b.handle ⟨r, ()⟩ (.ofInt 100) "a" "hello" "Ada"
    let fresh := b.handle ⟨.empty none, ()⟩ (.ofInt 100) "a" "hello" "Ada"
    r.find? "a" = some old ∧
      Event.messages p.2 = Event.messages fresh.2 ∧
      p.1.registry.find? "a" = fresh.1.registry.find? "a" ∧
      p.1.registry.find? "b" = r.find? "b" := by
  intro ask w o b old r p fresh
  have hlive : r.live? (.ofInt 100) "a" = none := by decide +kernel
  obtain ⟨hs, -, -, hf, -, hother⟩ := (isolated_conversations (.refl o) "a").1 ⟨r, ()⟩
    ⟨.empty none, ()⟩ (.ofInt 100) "hello" "Ada" rfl hlive
  exact ⟨by decide +kernel, hs, hf, hother "b" (by decide)⟩

end Bot

end ChatFlow

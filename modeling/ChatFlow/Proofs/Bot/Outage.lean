import ChatFlow.Proofs.Bot.Outcome
import ChatFlow.Proofs.Turn.Outage
import ChatFlow.Proofs.Turn.Progress

/-!
# A failing channel only cuts a conversation short

A message is handled in two worlds outside, of which the one takes every message that is sent, and the
other some and then none (`Outside.Outage`). What is sent in the second is what is sent first in the
other, and if that is all, nothing tells the two apart (`outage_cuts_short`).
-/

namespace ChatFlow

variable {κ κ' : Type}

/-- The world `o` with a channel that takes as many messages as are told beside its state, and then
fails. -/
def Outside.limited (o : Outside κ) (f : Fault) : Outside (Nat × κ) where
  send
    | (0, w), _ => (.error f, [], (0, w))
    | (k + 1, w), m => ((o.send w m).1, (o.send w m).2.1, (k, (o.send w m).2.2))
  fetch
    | (k, w), c => ((o.fetch w c).1, (k, (o.fetch w c).2))
  codecs := o.codecs

theorem Outside.outage_limited {o : Outside κ} (ho : o.AcceptsAll) (f : Fault) :
    o.Outage (o.limited f) fun k w w' => w' = (k, w) where
  accepts _ m := ho _ m
  send := by rintro k w _ rfl m; exact ⟨ho w m, rfl⟩
  refuses := by rintro w _ rfl m; exact ⟨f, rfl⟩
  fetch := by rintro k w _ rfl c; exact ⟨rfl, rfl⟩
  codecs := rfl

namespace Bot

theorem agree_opening (b : Bot κ) (b' : Bot κ') (hw : b.workflow = b'.workflow)
    (hr : b.rules = b'.rules) {S : κ → κ' → Prop} (registry : Registry) {world : κ} {world' : κ'}
    (hworld : S world world') (now : Instant) (id text name : String) :
    Turn.Agree S (b.opening ⟨registry, world⟩ now id text name)
      (b'.opening ⟨registry, world'⟩ now id text name) := by
  have fresh (s : Session) : (Turn.start s world).Alike S (Turn.start s world') :=
    ⟨rfl, rfl, hworld, rfl⟩
  unfold opening
  rw [hw, hr]
  dsimp only
  cases registry.live? now id with
  | none => exact ⟨rfl, fresh _⟩
  | some s =>
    dsimp only
    cases s.pending? with
    | none => exact ⟨rfl, (fresh s).note _ _⟩
    | some i =>
      cases b'.workflow.question? s.waiting with
      | none => exact ⟨rfl, ((fresh s).note _ _).finish⟩
      | some q =>
        obtain ⟨a, u, u', hu, hu', halike⟩ := ((fresh s).answer b'.rules q text).split
        simp only [hu, hu']
        cases a with
        | error f => exact ⟨rfl, halike.note _ _⟩
        | ok next => exact ⟨rfl, halike⟩

theorem registry_settle_congr {r : Registry} {world : κ} {world' : κ'} {t : Turn κ} {t' : Turn κ'}
    (hs : t.session = t'.session) (hl : t.isLive = t'.isLive) :
    (State.settle ⟨r, world⟩ t).registry = (State.settle ⟨r, world'⟩ t').registry := by
  simp only [State.settle, hs, hl]

theorem registry_handle_congr (b : Bot κ) (b' : Bot κ') (registry : Registry) {world : κ}
    {world' : κ'} {now : Instant} {id text name : String}
    (hs : (b.turn ⟨registry, world⟩ now id text name).session =
      (b'.turn ⟨registry, world'⟩ now id text name).session)
    (hl : (b.turn ⟨registry, world⟩ now id text name).isLive =
      (b'.turn ⟨registry, world'⟩ now id text name).isLive) :
    (b.handle ⟨registry, world⟩ now id text name).1.registry =
      (b'.handle ⟨registry, world'⟩ now id text name).1.registry := by
  unfold turn at hs hl
  unfold handle
  simp only [← Registry.get_eq_live?] at hs hl
  match hg : registry.get now id with
  | (some s, r, log) =>
    simp only [hg] at hs hl
    exact registry_settle_congr hs hl
  | (none, r, log) =>
    simp only [hg] at hs hl
    exact registry_settle_congr hs hl

/-- A turn in which the channel fails goes the same way as one in which it does not, or is cut short. -/
theorem follows_turn (b : Bot κ) (b' : Bot κ') (hw : b.workflow = b'.workflow)
    (hr : b.rules = b'.rules) {R : Nat → κ → κ' → Prop} (ho : b.outside.Outage b'.outside R)
    (registry : Registry) {world : κ} {world' : κ'} {k : Nat} (hworld : R k world world')
    (now : Instant) (id text name : String) :
    Turn.Follows R k (b.turn ⟨registry, world⟩ now id text name)
      (b'.turn ⟨registry, world'⟩ now id text name) := by
  obtain ⟨w, r, o⟩ := b
  obtain ⟨_, _, o'⟩ := b'
  obtain rfl : w = _ := hw
  obtain rfl : r = _ := hr
  obtain ⟨hn, hturn⟩ := exists_turn_eq_runFrom ⟨w, r, o⟩ ⟨registry, world⟩ now id text name
  obtain ⟨hn', hturn'⟩ := exists_turn_eq_runFrom ⟨w, r, o'⟩ ⟨registry, world'⟩ now id text name
  obtain ⟨next, t, t', hopen, hopen', halike⟩ :=
    (agree_opening ⟨w, r, o⟩ ⟨w, r, o'⟩ rfl rfl registry hworld now id text name).split
  have hnone := (opening_cases ⟨w, r, o'⟩ ⟨registry, world'⟩ now id text name).2.1
  rw [hturn, hturn']
  simp only [hopen, hopen'] at hn hn' hnone ⊢
  exact Turn.follows_runFrom ho w r next hn ⟨k, halike, by rw [hnone]; exact Nat.zero_add k⟩

/-- A failing channel only cuts a conversation short. Let a message be handled in two worlds that
answer calls alike, by a channel that takes every message and by one that takes `k` of them and then
fails. Then the second has sent the first `k` messages of the first, or all of them if they are fewer,
and the calls that it has made are the first of those that the first has made; if `k` is enough for all
messages, both leave the same registry. -/
theorem outage_cuts_short (b : Bot κ) (b' : Bot κ') (hw : b.workflow = b'.workflow)
    (hr : b.rules = b'.rules) {R : Nat → κ → κ' → Prop} (ho : b.outside.Outage b'.outside R)
    (registry : Registry) {world : κ} {world' : κ'} {k : Nat} (hworld : R k world world')
    (now : Instant) (id text name : String) :
    let p := b.handle ⟨registry, world⟩ now id text name
    let p' := b'.handle ⟨registry, world'⟩ now id text name
    Event.messages p'.2 = (Event.messages p.2).take k ∧
      Event.calls p'.2 <+: Event.calls p.2 ∧
      ((Event.messages p.2).length ≤ k → p'.1.registry = p.1.registry) := by
  have hm := b.filterMap_handle ⟨registry, world⟩ now id text name (f := Event.sent?) fun _ => rfl
  have hm' := b'.filterMap_handle ⟨registry, world'⟩ now id text name (f := Event.sent?) fun _ => rfl
  have hc := b.filterMap_handle ⟨registry, world⟩ now id text name (f := Event.called?) fun _ => rfl
  have hc' := b'.filterMap_handle ⟨registry, world'⟩ now id text name (f := Event.called?)
    fun _ => rfl
  intro p p'
  simp only [Event.messages, Event.calls, p, p', hm, hm', hc, hc']
  rcases b.follows_turn b' hw hr ho registry hworld now id text name with ⟨j, ha, hj⟩ | hcut
  · obtain ⟨hmessages, -⟩ := Turn.InStep.messages ⟨j, ha, hj⟩
    refine ⟨hmessages, ?_, fun _ => ?_⟩
    · exact ⟨[], (List.append_nil _).trans ha.calls.symm⟩
    · exact (registry_handle_congr b b' registry ha.session ha.isLive).symm
  · refine ⟨hcut.messages, hcut.calls, fun hle => ?_⟩
    exact absurd hle (Nat.not_le.2 hcut.lt)

/-- An action sends two messages, and a question is asked after it: the channel fails after the first
message, and only that one has been sent. -/
theorem outage_cuts_short_after_first :
    let item (text : String) : Json := .obj [("message", .obj [("text", .str text)])]
    let ask : Node := ⟨some "2", .question, [("question", .obj [("text", .str "Name?")])], []⟩
    let greet : Node := ⟨some "1", .action, [("type", .str "send_message"),
      ("payload", .arr [item "Hello", item "Welcome"])], [ask]⟩
    let w : Workflow := ⟨⟨none, .other "Trigger", [], [greet]⟩, [], "greeting", nofun⟩
    let o : Outside Unit := ⟨fun _ _ => (.ok (), [], ()), fun _ _ => (none, ()), fun _ => none⟩
    let rules : Rules := ⟨3, 3, Rules.standardListButton⟩
    let b : Bot Unit := ⟨w, rules, o⟩
    let b' : Bot (Nat × Unit) := ⟨w, rules, o.limited .breakdown⟩
    let p := b.handle ⟨.empty none, ()⟩ (.ofInt 0) "a" "hi" "Ada"
    let p' (k : Nat) := b'.handle ⟨.empty none, (k, ())⟩ (.ofInt 0) "a" "hi" "Ada"
    Event.messages p.2 = [⟨"a", .text "Hello"⟩, ⟨"a", .text "Welcome"⟩, ⟨"a", .text "Name?"⟩] ∧
      Event.messages (p' 1).2 = [⟨"a", .text "Hello"⟩] ∧
      (p' 3).1.registry = p.1.registry := by
  intro item ask greet w o rules b b' p p'
  have hgreet : greet ∈ w.root.preorder :=
    Node.mem_preorder_of_child List.mem_cons_self (Node.mem_preorder_self _)
  have hask : ask ∈ w.root.preorder :=
    Node.mem_preorder_trans hgreet
      (Node.mem_preorder_of_child List.mem_cons_self (Node.mem_preorder_self _))
  let t := Turn.start (Session.start (.ofInt 0) "a" "Ada") ()
  let t₁ := ((t.begin greet).execute o w rules greet).2
  have hturn : b.turn ⟨.empty none, ()⟩ (.ofInt 0) "a" "hi" "Ada" =
      ((t₁.begin ask).execute o w rules ask).2 :=
    (Turn.run_of_some (m := ask) hgreet rfl).trans (Turn.run_of_none (t := t₁) hask rfl)
  have hmessages : Event.messages p.2 =
      [⟨"a", .text "Hello"⟩, ⟨"a", .text "Welcome"⟩, ⟨"a", .text "Name?"⟩] := by
    have hm := b.filterMap_handle ⟨.empty none, ()⟩ (.ofInt 0) "a" "hi" "Ada" (f := Event.sent?)
      fun _ => rfl
    rw [hturn] at hm
    exact hm
  have hcut (k : Nat) := outage_cuts_short b b' rfl rfl
    (Outside.outage_limited (o := o) (fun _ _ => rfl) .breakdown) (.empty none)
    (show ((k, ()) : Nat × Unit) = (k, ()) from rfl) (.ofInt 0) "a" "hi" "Ada"
  refine ⟨hmessages, ?_, ?_⟩
  · rw [show Event.messages (p' 1).2 = (Event.messages p.2).take 1 from (hcut 1).1, hmessages]
    rfl
  · refine (hcut 3).2.2 ?_
    rw [show Event.messages (b.handle ⟨.empty none, ()⟩ (.ofInt 0) "a" "hi" "Ada").2 = _ from
      hmessages]
    exact Nat.le_refl 3

end Bot

end ChatFlow

import ChatFlow.Proofs.Json.Literal
import ChatFlow.Proofs.Template.Pass

/-!
# Filling in a text that is written with escapes

A pass over what stands between the quotes of a text does not see what an escape stands for.
`Written` is what lets it find the same placeholders there as in the text itself: an escape follows
no open brace, unless a character that no placeholder has stands between them or is what it stands
for. `Written.fill` says that a pass keeps this, and that what it makes of both belongs together.
-/

namespace ChatFlow.Template

open Json Json.Reader

variable {p : Pass} {b u m raw s cs r : List Char} {c : Char} {ps : List Piece} {n : Nat}

/-- Whether two braces stand together somewhere in a text. -/
def hasOpening (cs : List Char) : Bool := cs.tails.any opens

/-- Characters that stand for themselves in a text. -/
def Plain (cs : List Char) : Prop := ∀ c ∈ cs, c ≠ '"' ∧ c ≠ '\\' ∧ 32 ≤ c.toNat

instance (cs : List Char) : Decidable (Plain cs) := List.decidableBAll _ cs

/-- An escape, or the two of a surrogate pair, and the characters it stands for. -/
inductive Escape : List Char → List Char → Prop
  | letter {c e : Char} (h : escape? c = some e) : Escape ['\\', c] [e]
  | unit {x y z w : Char} {n : Nat} (h : unit? x y z w = some n) (whole : Text.isHalf n = false) :
      Escape ['\\', 'u', x, y, z, w] (Text.ofPoint n)
  | pair {x y z w x' y' z' w' : Char} {n n' : Nat} (h : unit? x y z w = some n)
      (h' : unit? x' y' z' w' = some n') (lead : Text.isLead n = true)
      (trail : Text.isTrail n' = true) :
      Escape ['\\', 'u', x, y, z, w, '\\', 'u', x', y', z', w'] (Text.ofPoint (Text.paired n n'))

/-- What stands between two quotes, and the text it is read as. -/
inductive Written : List Char → List Char → Prop
  | run {m : List Char} (hm : Plain m) : Written m m
  | char {c : Char} {b u : List Char} (hc : Plain [c]) (hbrace : c ≠ '{') (h : Written b u) :
      Written (c :: b) (c :: u)
  | escape {raw s b u : List Char} (e : Escape raw s) (hbrace : ∀ c ∈ s, c ≠ '{')
      (h : Written b u) : Written (raw ++ b) (s ++ u)
  | runChar {m b u : List Char} {c : Char} (hm : Plain m) (hc : Plain [c])
      (hslot : isSlot c = false) (h : Written b u) : Written (m ++ c :: b) (m ++ c :: u)
  | runEscape {m raw s b u : List Char} (hm : Plain m) (e : Escape raw s)
      (hslot : ∀ c ∈ s, isSlot c = false) (h : Written b u) :
      Written (m ++ (raw ++ b)) (m ++ (s ++ u))

/-! ### Escapes -/

theorem ne_brace_of_unit? {x y z w : Char} (h : unit? x y z w = some n) :
    ∀ c ∈ [x, y, z, w], c ≠ '{' := by
  intro c hc
  rintro rfl
  have := hexValue?_of_unit? h '{' hc
  cases this

theorem escape?_ne {e : Char} (h : escape? c = some e) : c ≠ '{' ∧ isSlot e = false := by
  unfold escape? at h
  split at h
  all_goals cases h
  all_goals decide

theorem ofPieces_char (c : Char) (ps : List Piece) : ofPieces (.char c :: ps) = c :: ofPieces ps := by
  rw [ofPieces.eq_def]

theorem ofPieces_unit (h : Text.isHalf n = false) (ps : List Piece) :
    ofPieces (.unit n :: ps) = Text.ofPoint n ++ ofPieces ps := by
  have hlead : Text.isLead n = false := by
    simp only [Text.isHalf, Text.isLead, Bool.and_eq_false_iff, decide_eq_false_iff_not] at h ⊢
    omega
  cases ps with
  | nil => simp [ofPieces]
  | cons q ps =>
    cases q with
    | char c => simp [ofPieces]
    | unit n' => simp [ofPieces, hlead]

theorem ofPieces_pair {n' : Nat} (hlead : Text.isLead n = true) (htrail : Text.isTrail n' = true)
    (ps : List Piece) : ofPieces (.unit n :: .unit n' :: ps) =
      Text.ofPoint (Text.paired n n') ++ ofPieces ps := by
  simp [ofPieces, hlead, htrail]

namespace Escape

theorem raw_eq (e : Escape raw s) : ∃ raw', raw = '\\' :: raw' ∧ ∀ c ∈ raw', c ≠ '{' := by
  cases e with
  | letter h => exact ⟨_, rfl, by simpa using (escape?_ne h).1⟩
  | unit h =>
    have := ne_brace_of_unit? h
    simp only [List.forall_mem_cons] at this
    exact ⟨_, rfl, by simpa using this⟩
  | pair h h' =>
    have hne := ne_brace_of_unit? h
    have hne' := ne_brace_of_unit? h'
    refine ⟨_, rfl, ?_⟩
    simp at hne hne' ⊢
    exact ⟨hne.1, hne.2.1, hne.2.2.1, hne.2.2.2, hne'⟩

theorem exists_cons (e : Escape raw s) : ∃ c s', s = c :: s' := by
  have point (n : Nat) : ∃ c s', Text.ofPoint n = c :: s' := by
    unfold Text.ofPoint
    split
    · exact ⟨_, _, rfl⟩
    · split <;> exact ⟨_, _, rfl⟩
  cases e with
  | letter => exact ⟨_, _, rfl⟩
  | unit => exact point _
  | pair => exact point _

theorem pieces (e : Escape raw s) : ∃ qs, (∀ cs, pieces? (raw ++ cs) =
      (pieces? cs).map fun p => (qs ++ p.1, p.2)) ∧ ∀ ps, ofPieces (qs ++ ps) = s ++ ofPieces ps := by
  cases e with
  | @letter c e h => exact ⟨[.char e], fun cs => pieces?_escape h, fun ps => ofPieces_char e ps⟩
  | @unit x y z w n h whole =>
    exact ⟨[.unit n], fun cs => pieces?_unit h, fun ps => ofPieces_unit whole ps⟩
  | @pair x y z w x' y' z' w' n n' h h' lead trail =>
    refine ⟨[.unit n, .unit n'], fun cs => ?_, fun ps => ofPieces_pair lead trail ps⟩
    simp only [List.cons_append, List.nil_append, pieces?_unit h, pieces?_unit h', Option.map_map]
    rfl

end Escape

/-! ### Reading -/

theorem Plain.append (hm : Plain m) (hb : Plain b) : Plain (m ++ b) :=
  List.forall_mem_append.2 ⟨hm, hb⟩

theorem pieces?_append_of_plain (hm : Plain m) (cs : List Char) :
    pieces? (m ++ cs) = (pieces? cs).map fun p => (m.map .char ++ p.1, p.2) := by
  induction m with
  | nil => simp
  | cons c m ih =>
    obtain ⟨⟨hquote, hslash, hlow⟩, hm⟩ := List.forall_mem_cons.1 hm
    rw [List.cons_append, pieces?_char hquote hslash hlow, ih hm, Option.map_map]
    rfl

theorem ofPieces_map_char (m : List Char) (ps : List Piece) :
    ofPieces (m.map .char ++ ps) = m ++ ofPieces ps := by
  induction m with
  | nil => rfl
  | cons c m ih => rw [List.map_cons, List.cons_append, ofPieces_char, ih]; rfl

theorem Written.pieces (h : Written b u) :
    ∃ ps, (∀ r, pieces? (b ++ '"' :: r) = some (ps, r)) ∧ ofPieces ps = u := by
  induction h with
  | @run m hm =>
    refine ⟨m.map .char, fun r => ?_, ?_⟩
    · rw [pieces?_append_of_plain hm, pieces?]
      simp
    · simpa [ofPieces] using ofPieces_map_char m []
  | @char c b u hc hbrace h ih =>
    obtain ⟨ps, hread, rfl⟩ := ih
    refine ⟨.char c :: ps, fun r => ?_, ofPieces_char c ps⟩
    have := pieces?_append_of_plain hc (b ++ '"' :: r)
    rwa [hread] at this
  | escape e hbrace h ih =>
    obtain ⟨ps, hread, rfl⟩ := ih
    obtain ⟨qs, hraw, hs⟩ := e.pieces
    exact ⟨qs ++ ps, fun r => by rw [List.append_assoc, hraw, hread]; rfl, hs ps⟩
  | @runChar m b u c hm hc hslot h ih =>
    obtain ⟨ps, hread, rfl⟩ := ih
    refine ⟨m.map .char ++ .char c :: ps, fun r => ?_, by rw [ofPieces_map_char, ofPieces_char]⟩
    have := pieces?_append_of_plain hc (b ++ '"' :: r)
    rw [hread] at this
    rw [List.append_assoc, pieces?_append_of_plain hm, List.cons_append]
    exact congrArg (Option.map _) this
  | @runEscape m raw s b u hm e hslot h ih =>
    obtain ⟨ps, hread, rfl⟩ := ih
    obtain ⟨qs, hraw, hs⟩ := e.pieces
    refine ⟨m.map .char ++ (qs ++ ps), fun r => ?_, by rw [ofPieces_map_char, hs]⟩
    rw [List.append_assoc, List.append_assoc, pieces?_append_of_plain hm, hraw, hread]
    rfl

theorem Written.spells (h : Written b u) : Spells b (String.ofList u) := by
  obtain ⟨ps, hread, rfl⟩ := h.pieces
  exact fun r => by rw [text, hread]

/-! ### Filling in -/

theorem plain_fill (p : Pass) (hm : Plain m) (hv : ∀ new ∈ p.values m, Plain new) :
    Plain (p.fill m) := by
  intro c hc
  rcases p.mem_fill hc with hc | ⟨new, hnew, hc⟩
  · exact hm c hc
  · exact hv new hnew c hc

/-- A pass finds the same placeholders in a text and in what stands for it between two quotes. -/
theorem Written.fill (p : Pass) (h : Written b u) (hv : ∀ new ∈ p.values b, Plain new) :
    Written (p.fill b) (p.fill u) := by
  induction h with
  | run hm => exact .run (plain_fill p hm hv)
  | @char c b u hc hbrace h ih =>
    rw [p.values_cons_of_ne hbrace] at hv
    rw [p.fill_cons_of_ne hbrace, p.fill_cons_of_ne hbrace]
    exact .char hc hbrace (ih hv)
  | @escape raw s b u e hbrace h ih =>
    obtain ⟨raw', rfl, hraw⟩ := e.raw_eq
    have hraw : ∀ c ∈ '\\' :: raw', c ≠ '{' := List.forall_mem_cons.2 ⟨by decide, hraw⟩
    rw [p.values_append_of_ne hraw] at hv
    rw [p.fill_append_of_ne hraw, p.fill_append_of_ne hbrace]
    exact .escape e hbrace (ih hv)
  | @runChar m b u c hm hc hslot h ih =>
    rw [p.values_append_cons hslot] at hv
    obtain ⟨hm', hb⟩ := List.forall_mem_append.1 hv
    rw [p.fill_append_cons hslot, p.fill_append_cons hslot]
    exact .runChar (plain_fill p hm hm') hc hslot (ih hb)
  | @runEscape m raw s b u hm e hslot h ih =>
    obtain ⟨raw', rfl, hraw⟩ := e.raw_eq
    obtain ⟨c, s', rfl⟩ := e.exists_cons
    obtain ⟨hc, hs⟩ := List.forall_mem_cons.1 hslot
    have hs : ∀ c ∈ s', c ≠ '{' := fun c hc => Pass.ne_of_isSlot_eq_false (hs c hc)
    rw [List.cons_append, p.values_append_cons (by decide), p.values_append_of_ne hraw] at hv
    obtain ⟨hm', hb⟩ := List.forall_mem_append.1 hv
    rw [List.cons_append, p.fill_append_cons (by decide), p.fill_append_of_ne hraw,
      List.cons_append, p.fill_append_cons hc, p.fill_append_of_ne hs]
    exact .runEscape (plain_fill p hm hm') e hslot (ih hb)

/-! ### Texts that can be filled in as they are written -/

/-- An escape may follow an open brace only if no placeholder has what it stands for, and it is no
open brace itself. Half a surrogate pair may not stand alone. -/
def mayFollow (seen : Bool) (n : Nat) : Bool :=
  !Text.isHalf n && (Text.ofPoint n).all fun c => !isSlot c || (!seen && c != '{')

/-- No escape stands where it may not. An open brace counts as `seen` until a character comes that no
placeholder has. -/
def settled (seen : Bool) : List Piece → Bool
  | [] => true
  | .char c :: ps => settled (isSlot c && (seen || c == '{')) ps
  | [.unit n] => mayFollow seen n
  | .unit n :: .char c :: ps => mayFollow seen n && settled false (.char c :: ps)
  | .unit n :: .unit n' :: ps =>
    if Text.isLead n && Text.isTrail n' then mayFollow seen (Text.paired n n') && settled false ps
    else mayFollow seen n && settled false (.unit n' :: ps)

theorem eq_of_pieces?_nil (h : pieces? cs = some ([], r)) : cs = '"' :: r := by
  rw [pieces?.eq_def] at h
  split at h
  · cases h
  · cases h; rfl
  · obtain ⟨n, -, h⟩ := Option.bind_eq_some_iff.1 h
    simp at h
  · obtain ⟨e, -, h⟩ := Option.bind_eq_some_iff.1 h
    simp at h
  · split at h
    · cases h
    · simp at h

theorem exists_of_pieces?_char (h : pieces? cs = some (.char c :: ps, r)) :
    ∃ raw cs', cs = raw ++ cs' ∧ pieces? cs' = some (ps, r) ∧
      (raw = [c] ∧ Plain [c] ∨ Escape raw [c] ∧ isSlot c = false) := by
  rw [pieces?.eq_def] at h
  split at h
  · cases h
  · cases h
  · obtain ⟨n, -, h⟩ := Option.bind_eq_some_iff.1 h
    simp at h
  · obtain ⟨e, he, h⟩ := Option.bind_eq_some_iff.1 h
    obtain ⟨⟨ps', r'⟩, hps, h⟩ := Option.map_eq_some_iff.1 h
    cases h
    exact ⟨['\\', _], _, rfl, hps, .inr ⟨.letter he, (escape?_ne he).2⟩⟩
  · rename_i cs hquote _ _
    split at h
    · cases h
    · rename_i hplain
      obtain ⟨⟨ps', r'⟩, hps, h⟩ := Option.map_eq_some_iff.1 h
      cases h
      simp only [Bool.or_eq_true, decide_eq_true_eq, beq_iff_eq, not_or, Nat.not_lt] at hplain
      exact ⟨[c], cs, rfl, hps, .inl ⟨rfl, by simpa [Plain] using ⟨hquote, hplain.2, hplain.1⟩⟩⟩

theorem exists_of_pieces?_unit (h : pieces? cs = some (.unit n :: ps, r)) :
    ∃ x y z w cs', cs = '\\' :: 'u' :: x :: y :: z :: w :: cs' ∧ unit? x y z w = some n ∧
      pieces? cs' = some (ps, r) := by
  rw [pieces?.eq_def] at h
  split at h
  · cases h
  · cases h
  · rename_i x y z w cs
    obtain ⟨n', hn, h⟩ := Option.bind_eq_some_iff.1 h
    obtain ⟨⟨ps', r'⟩, hps, h⟩ := Option.map_eq_some_iff.1 h
    cases h
    exact ⟨x, y, z, w, cs, rfl, hn, hps⟩
  · obtain ⟨e, -, h⟩ := Option.bind_eq_some_iff.1 h
    simp at h
  · split at h
    · cases h
    · simp at h

/-- What stands between two quotes goes on for a text, after characters that stand for themselves. -/
def GoesOn (seen : Bool) (b u : List Char) : Prop :=
  ∀ m, Plain m → (seen = false → m = []) → Written (m ++ b) (m ++ u)

namespace GoesOn

variable {seen : Bool}

theorem written (h : GoesOn false b u) : Written b u := h [] nofun fun _ => rfl

theorem char (hc : Plain [c]) (h : GoesOn (isSlot c && (seen || c == '{')) b u) :
    GoesOn seen (c :: b) (c :: u) := by
  intro m hm hseen
  cases hslot : isSlot c with
  | false =>
    rw [hslot, Bool.false_and] at h
    exact .runChar hm hc hslot h.written
  | true =>
    rw [hslot, Bool.true_and] at h
    by_cases hopen : (seen || c == '{') = true
    · rw [hopen] at h
      have := h (m ++ [c]) (hm.append hc) nofun
      rwa [List.append_assoc, List.append_assoc] at this
    · rw [eq_false_of_ne_true hopen] at h
      simp only [Bool.or_eq_true, beq_iff_eq, not_or, Bool.not_eq_true] at hopen
      rw [hseen hopen.1]
      exact .char hc hopen.2 h.written

theorem point (e : Escape raw (Text.ofPoint n)) (hn : mayFollow seen n = true)
    (h : GoesOn false b u) : GoesOn seen (raw ++ b) (Text.ofPoint n ++ u) := by
  intro m hm hseen
  simp only [mayFollow, Bool.and_eq_true, List.all_eq_true, Bool.or_eq_true, Bool.not_eq_true',
    bne_iff_ne] at hn
  cases seen with
  | true => exact .runEscape hm e (fun c hc => by simpa using hn.2 c hc) h.written
  | false =>
    rw [hseen rfl, List.nil_append, List.nil_append]
    refine .escape e (fun c hc => ?_) h.written
    rcases hn.2 c hc with hslot | hne
    · exact Pass.ne_of_isSlot_eq_false hslot
    · exact hne.2

end GoesOn

theorem GoesOn.nil {seen : Bool} : GoesOn seen [] [] := fun m hm _ => .run (by simpa using hm)

/-- A code unit that is no half of a pair is settled together with what follows it. -/
theorem exists_goesOn_unit {seen : Bool} (h : pieces? cs = some (.unit n :: ps, r))
    (hn : mayFollow seen n = true)
    (hps : ∀ cs', pieces? cs' = some (ps, r) → ∃ b, cs' = b ++ '"' :: r ∧ GoesOn false b (ofPieces ps)) :
    ∃ b, cs = b ++ '"' :: r ∧ GoesOn seen b (ofPieces (.unit n :: ps)) := by
  obtain ⟨x, y, z, w, cs, rfl, hunit, hread⟩ := exists_of_pieces?_unit h
  obtain ⟨b, rfl, hgo⟩ := hps cs hread
  have whole : Text.isHalf n = false := by
    simp only [mayFollow, Bool.and_eq_true, Bool.not_eq_true'] at hn
    exact hn.1
  rw [ofPieces_unit whole]
  exact ⟨_, rfl, .point (.unit hunit whole) hn hgo⟩

theorem exists_goesOn {seen : Bool} (h : pieces? cs = some (ps, r)) (hs : settled seen ps = true) :
    ∃ b, cs = b ++ '"' :: r ∧ GoesOn seen b (ofPieces ps) := by
  -- Along the pieces; `GoesOn` leaves open what came since the last character no placeholder has.
  fun_induction settled seen ps generalizing cs with
  | case1 seen =>
    exact ⟨[], eq_of_pieces?_nil h, .nil⟩
  | case2 seen c ps ih =>
    obtain ⟨raw, cs, rfl, hps, hc⟩ := exists_of_pieces?_char h
    obtain ⟨b, rfl, hgo⟩ := ih hps hs
    refine ⟨raw ++ b, by simp, ?_⟩
    rw [ofPieces_char]
    rcases hc with ⟨rfl, hc⟩ | ⟨e, hslot⟩
    · exact .char hc hgo
    · rw [hslot, Bool.false_and] at hgo
      exact fun m hm _ => .runEscape hm e (by simpa using hslot) hgo.written
  | case3 seen n =>
    exact exists_goesOn_unit h hs fun cs' h' => ⟨[], eq_of_pieces?_nil h', .nil⟩
  | case4 seen n c ps ih =>
    obtain ⟨hn, hs⟩ := Bool.and_eq_true_iff.1 hs
    exact exists_goesOn_unit h hn fun cs' h' => ih h' hs
  | case5 seen n n' ps hpair ih =>
    obtain ⟨hn, hs⟩ := Bool.and_eq_true_iff.1 hs
    obtain ⟨hlead, htrail⟩ := Bool.and_eq_true_iff.1 hpair
    obtain ⟨x, y, z, w, cs, rfl, hunit, h⟩ := exists_of_pieces?_unit h
    obtain ⟨x', y', z', w', cs, rfl, hunit', h⟩ := exists_of_pieces?_unit h
    obtain ⟨b, rfl, hgo⟩ := ih h hs
    rw [ofPieces_pair hlead htrail]
    exact ⟨_, rfl, .point (.pair hunit hunit' hlead htrail) hn hgo⟩
  | case6 seen n n' ps hpair ih =>
    obtain ⟨hn, hs⟩ := Bool.and_eq_true_iff.1 hs
    exact exists_goesOn_unit h hn fun cs' h' => ih h' hs

end ChatFlow.Template

import ChatFlow.Json.Writer
import ChatFlow.Proofs.Template.Written
import ChatFlow.Proofs.Text.Whole

/-!
# What can be written

A value without doubles whose texts have an encoding can be written, and what is written has an
encoding, too (`Exact.encode_eq`): between two quotes every character stands for itself or is written
as an escape of ASCII characters (`escapeChar_cases`), so that no half of a pair comes about where texts
meet quotes.
-/

namespace ChatFlow

namespace Json

open Reader
open Template (Plain Escape)
open Text (IsWhole isSpare isWhole_cons isWhole_append isSpare_of_lt)

variable {c : Char} {cs r : List Char} {s : String} {v : Json}

/-! ### Escapes -/

/-- Whether characters are the digits of a unit. -/
def spellsUnit (n : Nat) : List Char → Bool
  | [x, y, z, w] => unit? x y z w == some n && [x, y, z, w].all (·.toNat < 128)
  | _ => false

theorem escape_control : ∀ n < 32, ∀ c, c.toNat = n →
    Escape ('\\' :: 'u' :: (Text.hex 4 n).toList) [c] ∧ ∀ d ∈ (Text.hex 4 n).toList, d.toNat < 128 := by
  have hunit : ∀ n < 32, spellsUnit n (Text.hex 4 n).toList = true := by decide +kernel
  intro n hn c hc
  have h := hunit n hn
  unfold spellsUnit at h
  split at h
  · rename_i x y z w hhex
    rw [Bool.and_eq_true, beq_iff_eq, List.all_eq_true] at h
    have hpoint : Text.ofPoint n = [c] := by
      have hwhole : Text.isHalf n = false := by simp [Text.isHalf]; omega
      have hchar : Char.ofNat n = c := by rw [← hc, Char.ofNat_toNat]
      have hspare : isSpare c = false := isSpare_of_lt (by omega)
      rw [Text.ofPoint, hwhole, hchar, hspare]
      rfl
    rw [hhex, ← hpoint]
    exact ⟨.unit h.1 (by simp [Text.isHalf]; omega), fun d hd => of_decide_eq_true (h.2 d hd)⟩
  · cases h

/-- Between two quotes a character stands for itself, or an escape stands for it. -/
theorem escapeChar_cases (c : Char) : Plain [c] ∧ escapeChar c = [c] ∨
    c.toNat < 128 ∧ Escape (escapeChar c) [c] ∧ ∀ d ∈ escapeChar c, d.toNat < 128 := by
  unfold escapeChar
  split
  -- The characters that have a letter for an escape.
  any_goals exact Or.inr ⟨by decide, .letter rfl, by simp⟩
  · rename_i hquote hslash _ _ _ _ _
    split
    · rename_i hlow
      obtain ⟨hescape, hascii⟩ := escape_control c.toNat hlow c rfl
      refine Or.inr ⟨by omega, hescape, ?_⟩
      exact List.forall_mem_cons.2 ⟨by decide, List.forall_mem_cons.2 ⟨by decide, hascii⟩⟩
    · rename_i hlow
      exact Or.inl ⟨by simpa [Plain] using ⟨hquote, hslash, by omega⟩, rfl⟩

theorem spells_escaped (s : String) : Spells (s.toList.flatMap escapeChar) s := by
  have pieces (cs : List Char) : ∃ ps, (∀ r, pieces? (cs.flatMap escapeChar ++ '"' :: r) =
      some (ps, r)) ∧ ofPieces ps = cs := by
    induction cs with
    | nil => exact ⟨[], fun r => rfl, rfl⟩
    | cons c cs ih =>
      obtain ⟨ps, hread, hps⟩ := ih
      rcases escapeChar_cases c with ⟨hplain, hself⟩ | ⟨-, hescape, -⟩
      · refine ⟨.char c :: ps, fun r => ?_, by rw [Template.ofPieces_char, hps]⟩
        rw [List.flatMap_cons, hself, List.append_assoc, Template.pieces?_append_of_plain hplain,
          hread]
        rfl
      · obtain ⟨qs, hraw, hqs⟩ := hescape.pieces
        refine ⟨qs ++ ps, fun r => ?_, by rw [hqs, hps]; rfl⟩
        rw [List.flatMap_cons, List.append_assoc, hraw, hread]
        rfl
  obtain ⟨ps, hread, hps⟩ := pieces s.toList
  intro r
  rw [text, hread, ← String.ofList_toList (s := s), ← hps]

/-! ### Encodings -/

theorem escapeChar_of_isSpare (h : isSpare c = true) : escapeChar c = [c] := by
  rcases escapeChar_cases c with ⟨-, hself⟩ | ⟨hlow, -⟩
  · exact hself
  · rw [isSpare_of_lt hlow] at h; cases h

theorem not_isSpare_escapeChar (h : isSpare c = false) : ∀ d ∈ escapeChar c, isSpare d = false := by
  rcases escapeChar_cases c with ⟨-, hself⟩ | ⟨-, -, hascii⟩
  · rw [hself]
    exact List.forall_mem_singleton.2 h
  · exact fun d hd => isSpare_of_lt (hascii d hd)

theorem head_escaped (hcs : ∀ c ∈ cs.head?, isSpare c = false)
    (hr : ∀ c ∈ r.head?, isSpare c = false) :
    ∀ d ∈ (cs.flatMap escapeChar ++ r).head?, isSpare d = false := by
  cases cs with
  | nil => exact hr
  | cons c cs =>
    have hne : escapeChar c ≠ [] := by
      rcases escapeChar_cases c with ⟨-, hself⟩ | ⟨-, hescape, -⟩
      · simp [hself]
      · obtain ⟨raw, hraw, -⟩ := hescape.raw_eq
        simp [hraw]
    obtain ⟨d, ds, hds⟩ := List.exists_cons_of_ne_nil hne
    have hall := not_isSpare_escapeChar (hcs c rfl)
    intro d' hd'
    rw [List.flatMap_cons, hds] at hd'
    cases hd'
    exact hall d (by rw [hds]; exact List.mem_cons_self)

/-- Escapes leave no half of a pair alone. -/
theorem isWhole_escaped (h : IsWhole cs) (hhead : ∀ c ∈ r.head?, isSpare c = false)
    (hr : IsWhole r) : IsWhole (cs.flatMap escapeChar ++ r) := by
  -- A character that is no spare one behind its mark.
  have alone (c : Char) (cs : List Char) (hc : c = Text.mark → ∀ c' ∈ cs.head?, isSpare c' = false)
      (hwhole : IsWhole (c :: cs)) (ih : IsWhole cs → IsWhole (cs.flatMap escapeChar ++ r)) :
      IsWhole ((c :: cs).flatMap escapeChar ++ r) := by
    obtain ⟨hmark, hcs⟩ := (Text.isWhole_cons_of_head hc).1 hwhole
    rw [List.flatMap_cons, List.append_assoc]
    cases hspare : isSpare c with
    | false => exact (isWhole_append (not_isSpare_escapeChar hspare)).2 (ih hcs)
    | true =>
      rw [escapeChar_of_isSpare hspare]
      exact (Text.isWhole_cons_of_head fun hm => head_escaped (hc hm) hhead).2 ⟨hmark, ih hcs⟩
  induction cs using Text.letters.induct with
  | case1 => exact hr
  | case2 c => exact alone c [] (fun _ => nofun) h fun _ => hr
  | case3 c c' cs hmark ih =>
    obtain ⟨rfl, hspare⟩ := hmark
    rw [List.flatMap_cons, List.flatMap_cons, escapeChar_of_isSpare hspare,
      escapeChar_of_isSpare (c := Text.mark) rfl]
    exact (Text.isWhole_mark hspare).2 (ih ((Text.isWhole_mark hspare).1 h))
  | case4 c c' cs hno ih =>
    refine alone c (c' :: cs) (fun hm d hd => ?_) h ih
    cases hd
    exact eq_false_of_ne_true fun hspare => hno ⟨hm, hspare⟩

/-! ### Values -/

/-- A value without doubles whose texts hold no half of a pair. -/
inductive Exact : Json → Prop
  | null : Exact .null
  | bool (b : Bool) : Exact (.bool b)
  | int (n : Int) : Exact (.int n)
  | str {s : String} (h : Text.isEncodable s = true) : Exact (.str s)
  | arr {vs : List Json} (h : ∀ v ∈ vs, Exact v) : Exact (.arr vs)
  | obj {fs : List (String × Json)} (hkeys : ∀ e ∈ fs, Text.isEncodable e.1 = true)
      (h : ∀ e ∈ fs, Exact e.2) : Exact (.obj fs)

theorem toList_toString (n : Int) :
    (toString n).toList = (if n < 0 then ['-'] else []) ++ Nat.toDigits 10 n.natAbs := by
  cases n with
  | ofNat m => exact String.toList_ofList
  | negSucc m =>
    rw [if_pos (Int.negSucc_lt_zero m), Int.natAbs_negSucc]
    show ("-" ++ Nat.repr (m + 1)).toList = _
    rw [String.toList_append]
    exact congrArg _ String.toList_ofList

theorem isAscii_chars_int (n : Int) : Text.IsAscii (int n).chars := by
  rw [chars, toList_toString]
  refine Text.isAscii_append.2 ⟨?_, Text.isAscii_toDigits _⟩
  split <;> decide

/-- What follows a value may follow it in a text without halves. -/
structure Follows (r : List Char) : Prop where
  head : ∀ c ∈ r.head?, isSpare c = false
  whole : IsWhole r

theorem Follows.cons (hc : isSpare c = false) (h : IsWhole r) : Follows (c :: r) :=
  ⟨fun _ hd => by cases hd; exact hc, (isWhole_cons hc).2 h⟩

theorem isWhole_quotedChars (h : Text.isEncodable s = true) (hr : IsWhole r) :
    IsWhole (quotedChars s ++ r) := by
  rw [quotedChars, List.cons_append, List.cons_append, List.append_assoc]
  have hrest : Follows (['"'] ++ r) := .cons rfl hr
  exact (isWhole_cons rfl).2 (isWhole_escaped h hrest.head hrest.whole)

theorem isWhole_itemsChars {vs : List Json}
    (h : ∀ v ∈ vs, ∀ r, Follows r → IsWhole (v.chars ++ r)) (hr : IsWhole r) :
    Follows (itemsChars vs ++ r) := by
  induction vs with
  | nil =>
    rw [itemsChars]
    exact .cons rfl hr
  | cons v vs ih =>
    obtain ⟨hv, hvs⟩ := List.forall_mem_cons.1 h
    rw [itemsChars, List.cons_append, List.cons_append, List.append_assoc]
    exact .cons rfl (hv _ (ih hvs))

theorem isWhole_fieldsChars {fs : List (String × Json)}
    (hkeys : ∀ e ∈ fs, Text.isEncodable e.1 = true)
    (h : ∀ e ∈ fs, ∀ r, Follows r → IsWhole (e.2.chars ++ r)) (hr : IsWhole r) :
    Follows (fieldsChars fs ++ r) := by
  induction fs with
  | nil =>
    rw [fieldsChars]
    exact .cons rfl hr
  | cons e fs ih =>
    obtain ⟨hk, htail⟩ := List.forall_mem_cons.1 hkeys
    obtain ⟨hv, hfs⟩ := List.forall_mem_cons.1 h
    obtain ⟨k, v⟩ := e
    rw [fieldsChars]
    simp only [List.cons_append, List.append_assoc]
    exact .cons rfl (isWhole_quotedChars hk ((isWhole_cons rfl).2 (hv _ (ih htail hfs))))

theorem isWhole_chars (he : Exact v) (hr : Follows r) : IsWhole (v.chars ++ r) := by
  induction he generalizing r with
  | null => exact (isWhole_append (by simp [chars, Text.isSpare])).2 hr.whole
  | bool b => exact (isWhole_append (by cases b <;> simp [chars, Text.isSpare])).2 hr.whole
  | int n => exact (isWhole_append (Text.not_isSpare_of_isAscii (isAscii_chars_int n))).2 hr.whole
  | str h =>
    rw [chars]
    exact isWhole_quotedChars h hr.whole
  | @arr vs h ih =>
    cases vs with
    | nil => exact (isWhole_append (by simp [chars, Text.isSpare])).2 hr.whole
    | cons v vs =>
      obtain ⟨hv, hvs⟩ := List.forall_mem_cons.1 ih
      rw [chars, List.cons_append, List.cons_append, List.append_assoc]
      exact (isWhole_cons rfl).2 (hv (isWhole_itemsChars (fun v hv r => hvs v hv) hr.whole))
  | @obj fs hkeys h ih =>
    cases fs with
    | nil => exact (isWhole_append (by simp [chars, Text.isSpare])).2 hr.whole
    | cons e fs =>
      obtain ⟨hk, htail⟩ := List.forall_mem_cons.1 hkeys
      obtain ⟨hv, hfs⟩ := List.forall_mem_cons.1 ih
      obtain ⟨k, v⟩ := e
      rw [chars]
      simp only [List.cons_append, List.append_assoc]
      refine (isWhole_cons rfl).2 (isWhole_quotedChars hk ((isWhole_cons rfl).2 (hv ?_)))
      exact isWhole_fieldsChars htail (fun e he r => hfs e he) hr.whole

theorem Exact.isFinite (he : Exact v) : v.isFinite = true := by
  have items (vs : List Json) (h : ∀ v ∈ vs, v.isFinite = true) : allFinite vs = true := by
    induction vs with
    | nil => rfl
    | cons v vs ih =>
      obtain ⟨hv, hvs⟩ := List.forall_mem_cons.1 h
      rw [allFinite, hv, ih hvs]; rfl
  have fields (fs : List (String × Json)) (h : ∀ e ∈ fs, e.2.isFinite = true) :
      fieldsFinite fs = true := by
    induction fs with
    | nil => rfl
    | cons e fs ih =>
      obtain ⟨hv, hfs⟩ := List.forall_mem_cons.1 h
      rw [fieldsFinite, hv, ih hfs]; rfl
  induction he with
  | arr h ih => rw [Json.isFinite]; exact items _ ih
  | obj hkeys h ih => rw [Json.isFinite]; exact fields _ ih
  | _ => rfl

theorem Exact.encode_eq (he : Exact v) : v.encode = .ok v.render := by
  refine Json.encode_eq_ok he.isFinite ?_
  have h := isWhole_chars he (r := []) ⟨nofun, Text.isWhole_nil⟩
  rwa [List.append_nil] at h

end Json

end ChatFlow

import ChatFlow.Json.Body
import ChatFlow.Proofs.Text.Whole
import Mathlib

/-!
# A text in every layout

A body is read as the text that it spells, whatever the layout of its bytes, and whether a mark tells
the layout (`readBody_mark_append`) or the zeros among the bytes do (`readBody_spell`). This is shown for
texts in ASCII, which are their own encoding in UTF-8 (`readBody_of_isAscii`).
-/

namespace ChatFlow

namespace Text

variable {c : Char} {cs : List Char} {s : String}

/-! ### Single bytes -/

/-- The one byte of a character of ASCII. -/
def byte (c : Char) : UInt8 := UInt8.ofNat c.toNat

theorem toNat_byte (h : c.toNat < 128) : (byte c).toNat = c.toNat := by
  rw [byte, UInt8.toNat_ofNat']
  omega

theorem byte_lt (h : c.toNat < 128) : byte c < 0x80 :=
  UInt8.lt_iff_toNat_lt.2 (by rw [toNat_byte h]; exact h)

theorem byte_ne_zero (h : 32 ≤ c.toNat ∧ c.toNat < 128) : byte c ≠ 0 := by
  intro hzero
  have hnat := toNat_byte h.2
  rw [hzero, UInt8.toNat_zero] at hnat
  omega

theorem flatMap_of_isAscii {f : Char → List UInt8} (hf : ∀ c, c.toNat < 128 → f c = [byte c])
    (h : IsAscii cs) : cs.flatMap f = cs.map byte := by
  induction cs with
  | nil => rfl
  | cons c cs ih =>
    obtain ⟨hc, hcs⟩ := isAscii_cons.1 h
    rw [List.flatMap_cons, hf c hc.2, ih hcs]
    rfl

theorem points_of_isAscii (h : IsAscii cs) : points cs = cs.map Char.toNat := by
  induction cs with
  | nil => rfl
  | cons c cs ih =>
    obtain ⟨hc, hcs⟩ := isAscii_cons.1 h
    have hspare := isSpare_of_lt hc.2
    have hletters : letters (c :: cs) = [c] :: letters cs :=
      letters_cons_of_head (by rintro rfl; cases hspare)
    rw [points, hletters, List.map_cons, List.map_cons, ← ih hcs]
    simp [pointOf, hspare, points]

theorem utf8_of_isAscii (h : IsAscii s.toList) : utf8 s = s.toList.map byte := by
  have hbytes : ∀ n < 128, pointBytes n = [UInt8.ofNat n] := by decide +kernel
  rw [utf8, points_of_isAscii h, List.flatMap_map]
  exact flatMap_of_isAscii (fun c hc => hbytes c.toNat hc) h

theorem looseUtf8?_of_isAscii (h : IsAscii cs) : looseUtf8? (cs.map byte) = some cs := by
  induction cs with
  | nil => rfl
  | cons c cs ih =>
    obtain ⟨hc, hcs⟩ := isAscii_cons.1 h
    have hbyte : looseByte? none (byte c) = some ([c], none) := by
      simp only [looseByte?, if_pos (byte_lt hc.2), toNat_byte hc.2, Char.ofNat_toNat]
    have hrest : looseUtf8From? none (cs.map byte) = some cs := ih hcs
    rw [List.map_cons, looseUtf8?, looseUtf8From?, hbyte]
    dsimp only [Option.bind_eq_bind, Option.bind_some]
    rw [hrest]
    rfl

/-! ### Wide characters -/

theorem ofPoints_of_isAscii (h : IsAscii cs) : ofPoints (cs.map Char.toNat) = cs := by
  have hpoint : ∀ c ∈ cs, ofPoint c.toNat = [c] := fun c hc => by
    simp [ofPoint, isHalf_toNat, Char.ofNat_toNat, isSpare_of_lt (h c hc).2]
  rw [ofPoints, List.flatMap_map, List.flatMap_congr hpoint, List.flatMap_singleton']

/-- Where no pair begins, code units are code points. -/
theorem ofUnits_eq_ofPoints {ns : List Nat} (h : ∀ n ∈ ns, isLead n = false) :
    ofUnits ns = ofPoints ns := by
  fun_induction ofUnits ns with
  | case1 => rfl
  | case2 n => rw [ofPoints, List.flatMap_singleton]
  | case3 n n' ns hpair ih =>
    rw [h n List.mem_cons_self] at hpair
    cases hpair
  | case4 n n' ns hpair ih => rw [ih fun m hm => h m (List.mem_cons_of_mem _ hm)]; rfl

theorem ofUnits_of_isAscii (h : IsAscii cs) : ofUnits (cs.map Char.toNat) = cs := by
  rw [ofUnits_eq_ofPoints, ofPoints_of_isAscii h]
  intro n hn
  obtain ⟨c, hc, rfl⟩ := List.mem_map.1 hn
  have hlt := (h c hc).2
  simp only [isLead, Bool.and_eq_false_iff, decide_eq_false_iff_not]
  omega

/-- Bytes in the order in which they are written. -/
def inOrder (bigEndian : Bool) (bytes : List UInt8) : List UInt8 :=
  if bigEndian then bytes else bytes.reverse

theorem pairs_of_isAscii (bigEndian : Bool) (h : IsAscii cs) :
    pairs bigEndian (cs.flatMap fun c => inOrder bigEndian [0, byte c]) =
      (cs.map Char.toNat, false) := by
  induction cs with
  | nil => rfl
  | cons c cs ih =>
    obtain ⟨hc, hcs⟩ := isAscii_cons.1 h
    rw [List.flatMap_cons]
    cases bigEndian <;> simp_all [inOrder, pairs, joinBytes, toNat_byte hc.2]

theorem quads_of_isAscii (bigEndian : Bool) (h : IsAscii cs) :
    quads bigEndian (cs.flatMap fun c => inOrder bigEndian [0, 0, 0, byte c]) =
      (cs.map Char.toNat, false) := by
  induction cs with
  | nil => rfl
  | cons c cs ih =>
    obtain ⟨hc, hcs⟩ := isAscii_cons.1 h
    rw [List.flatMap_cons]
    cases bigEndian <;> simp_all [inOrder, quads, joinBytes, toNat_byte hc.2]

end Text

open Text (IsAscii isAscii_cons byte byte_ne_zero inOrder)

namespace Json

variable {cs : List Char} {s : String}

namespace Layout

/-- The bytes of a character of ASCII. -/
def spell : Layout → Char → List UInt8
  | utf8, c => [byte c]
  | utf16 bigEndian, c => inOrder bigEndian [0, byte c]
  | utf32 bigEndian, c => inOrder bigEndian [0, 0, 0, byte c]

def mark : Layout → List UInt8
  | utf8 => [0xef, 0xbb, 0xbf]
  | utf16 bigEndian => inOrder bigEndian [0xfe, 0xff]
  | utf32 bigEndian => inOrder bigEndian [0, 0, 0xfe, 0xff]

theorem flatMap_spell_utf8 (h : IsAscii cs) : cs.flatMap utf8.spell = cs.map byte :=
  Text.flatMap_of_isAscii (fun _ _ => rfl) h

theorem read?_spell (layout : Layout) (h : IsAscii cs) :
    layout.read? (cs.flatMap layout.spell) = some cs := by
  cases layout with
  | utf8 => rw [flatMap_spell_utf8 h, read?, Text.looseUtf8?_of_isAscii h]
  | utf16 bigEndian =>
    have hpairs : Text.pairs bigEndian (cs.flatMap (utf16 bigEndian).spell) = _ :=
      Text.pairs_of_isAscii bigEndian h
    simp only [read?, hpairs, Text.ofUnits_of_isAscii h]
  | utf32 bigEndian =>
    have hquads : Text.quads bigEndian (cs.flatMap (utf32 bigEndian).spell) = _ :=
      Text.quads_of_isAscii bigEndian h
    have hall : (cs.map Char.toNat).all (· < 0x110000) = true := by
      simp only [List.all_map, List.all_eq_true, Function.comp_apply, decide_eq_true_eq]
      exact fun c hc => Nat.lt_trans (h c hc).2 (by decide)
    simp only [read?, hquads, hall, if_true, Text.ofPoints_of_isAscii h]

/-! ### With a mark -/

theorem marked?_mark_append (layout : Layout) (h : IsAscii cs) :
    marked? (layout.mark ++ cs.flatMap layout.spell) = some (layout, cs.flatMap layout.spell) := by
  cases layout with
  | utf8 => rfl
  | utf16 bigEndian =>
    cases bigEndian with
    | true => rfl
    | false =>
      -- What follows must not look like the second half of the longer mark.
      cases cs with
      | nil => rfl
      | cons c cs =>
        have hc := byte_ne_zero (isAscii_cons.1 h).1
        rw [List.flatMap_cons]
        simp [marked?, mark, spell, inOrder, hc]
  | utf32 bigEndian => cases bigEndian <;> rfl

/-! ### Without a mark -/

theorem toNat_of_isAscii (h : IsAscii cs) {b : UInt8} (hb : b ∈ cs.map byte) :
    32 ≤ b.toNat ∧ b.toNat < 128 := by
  obtain ⟨c, hc, rfl⟩ := List.mem_map.1 hb
  rw [Text.toNat_byte (h c hc).2]
  exact h c hc

theorem marked?_spell (layout : Layout) (h : IsAscii cs) :
    marked? (cs.flatMap layout.spell) = none := by
  cases layout with
  | utf8 =>
    rw [flatMap_spell_utf8 h]
    have hascii := fun b => toNat_of_isAscii h (b := b)
    generalize cs.map byte = bytes at hascii
    unfold marked?
    -- Every mark begins with a byte that is zero or beyond ASCII.
    split <;> first
      | rfl
      | exact absurd (hascii _ List.mem_cons_self) (by decide)
  | utf16 bigEndian =>
    cases cs with
    | nil => rfl
    | cons c cs =>
      have hc := byte_ne_zero (isAscii_cons.1 h).1
      unfold marked?
      cases bigEndian <;> split <;> simp_all [spell, inOrder]
  | utf32 bigEndian =>
    cases cs with
    | nil => rfl
    | cons c cs =>
      unfold marked?
      cases bigEndian <;> split <;> simp_all [spell, inOrder]

theorem of_cons (a b c d : UInt8) (bytes : List UInt8) : Layout.of (a :: b :: c :: d :: bytes) =
    if a = 0 then if b = 0 then utf32 true else utf16 true
    else if b = 0 then if c = 0 ∧ d = 0 then utf32 false else utf16 false
    else utf8 := by
  by_cases ha : a = 0 <;> by_cases hb : b = 0
  · simp [Layout.of, ha, hb]
  · simp [Layout.of, ha, hb]
  · by_cases hc : c = 0 <;> by_cases hd : d = 0 <;> simp [Layout.of, ha, hb, hc, hd]
  · simp [Layout.of, ha, hb]

theorem of_pair (a b : UInt8) : Layout.of [a, b] =
    if a = 0 then utf16 true else if b = 0 then utf16 false else utf8 := by
  unfold Layout.of
  split <;> simp_all

/-- The zeros among the first bytes tell the layout. -/
theorem of_spell (layout : Layout) (h : IsAscii cs) (hne : cs ≠ []) :
    Layout.of (cs.flatMap layout.spell) = layout := by
  cases layout with
  | utf8 =>
    rw [flatMap_spell_utf8 h]
    have hascii := fun b => toNat_of_isAscii h (b := b)
    generalize cs.map byte = bytes at hascii
    unfold Layout.of
    split <;> first
      | rfl
      | exact absurd (hascii 0 (by simp)) (by decide)
  | utf16 bigEndian =>
    match cs with
    | [] => exact absurd rfl hne
    | [c] =>
      have hc := byte_ne_zero (isAscii_cons.1 h).1
      cases bigEndian <;> simp [spell, inOrder, of_pair, hc]
    | c :: c' :: cs =>
      have hc := byte_ne_zero (isAscii_cons.1 h).1
      have hc' := byte_ne_zero (isAscii_cons.1 (isAscii_cons.1 h).2).1
      cases bigEndian <;> simp [spell, inOrder, of_cons, hc, hc']
  | utf32 bigEndian =>
    match cs with
    | [] => exact absurd rfl hne
    | c :: cs =>
      have hc := byte_ne_zero (isAscii_cons.1 h).1
      cases bigEndian <;> simp [spell, inOrder, of_cons, hc]

end Layout

/-! ### Bodies -/

theorem readBody_mark_append (layout : Layout) (h : IsAscii s.toList) :
    readBody (layout.mark ++ s.toList.flatMap layout.spell) = read s := by
  rw [readBody, bodyChars?, layout.marked?_mark_append h]
  dsimp only
  rw [layout.read?_spell h]
  dsimp only
  rw [String.ofList_toList]

example : readBody [0xff, 0xfe, 0x7b, 0, 0x7d, 0] = .ok (.obj []) := by cbv

theorem readBody_spell (layout : Layout) (h : IsAscii s.toList) :
    readBody (s.toList.flatMap layout.spell) = read s := by
  have hread : (Layout.of (s.toList.flatMap layout.spell)).read? (s.toList.flatMap layout.spell) =
      some s.toList := by
    by_cases hne : s.toList = []
    · rw [hne]; rfl
    · rw [layout.of_spell h hne, layout.read?_spell h]
  rw [readBody, bodyChars?, layout.marked?_spell h]
  dsimp only
  rw [hread]
  dsimp only
  rw [String.ofList_toList]

theorem readBody_of_isAscii (h : IsAscii s.toList) : readBody (Text.utf8 s) = read s := by
  rw [Text.utf8_of_isAscii h, ← Layout.flatMap_spell_utf8 h, readBody_spell .utf8 h]

end Json

end ChatFlow

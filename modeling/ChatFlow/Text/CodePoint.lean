/-!
# Code points

Data from outside may hold one half of a surrogate pair alone, which is no character. A text keeps
such a half as a spare character of the last private plane; the spare characters themselves stand
behind a `mark`. So characters of a text make `letters`, of one character or two, and each letter is
a code point; what counts or cuts characters counts letters (`size_clip_le`, `clip_eq_self`).
-/

namespace ChatFlow.Text

/-! ### Surrogates -/

/-- Whether a number is the first half of a surrogate pair. -/
def isLead (n : Nat) : Bool := 0xd800 ≤ n && n < 0xdc00

/-- Whether a number is the second half of a surrogate pair. -/
def isTrail (n : Nat) : Bool := 0xdc00 ≤ n && n < 0xe000

/-- Whether a number is half a surrogate pair. -/
def isHalf (n : Nat) : Bool := 0xd800 ≤ n && n < 0xe000

def paired (lead trail : Nat) : Nat := 0x10000 + (lead - 0xd800) * 1024 + (trail - 0xdc00)

/-! ### Letters -/

/-- The character before a spare character that stands for itself. -/
def mark : Char := Char.ofNat 0x10f800

def isSpare (c : Char) : Bool := 0x10f000 ≤ c.toNat && c.toNat ≤ 0x10f800

def ofPoint (n : Nat) : List Char :=
  if isHalf n then [Char.ofNat (0x101800 + n)]
  else if isSpare (Char.ofNat n) then [mark, Char.ofNat n]
  else [Char.ofNat n]

def ofPoints (ns : List Nat) : List Char := ns.flatMap ofPoint

def letters : List Char → List (List Char)
  | [] => []
  | [c] => [[c]]
  | c :: c' :: cs =>
    if c = mark ∧ isSpare c' then [c, c'] :: letters cs else [c] :: letters (c' :: cs)

def pointOf : List Char → Nat
  | [c] => if isSpare c && c != mark then c.toNat - 0x101800 else c.toNat
  | [_, c] => c.toNat
  | _ => 0

def points (cs : List Char) : List Nat := (letters cs).map pointOf

def size (s : String) : Nat := (letters s.toList).length

/-- The first `n` letters of a text. -/
def clip (n : Nat) (s : String) : String := String.ofList ((letters s.toList).take n).flatten

/-- The characters of code units, in which pairs stand for one code point each. -/
def ofUnits : List Nat → List Char
  | [] => []
  | [n] => ofPoint n
  | n :: n' :: ns =>
    if isLead n && isTrail n' then ofPoint (paired n n') ++ ofUnits ns
    else ofPoint n ++ ofUnits (n' :: ns)

/-! ### Bytes -/

/-- Whether a text can be encoded: it holds no half of a pair. -/
def isEncodable (s : String) : Bool := (points s.toList).all fun n => !isHalf n

/-- The bytes of a code point that is no half of a pair. -/
def pointBytes (n : Nat) : List UInt8 := (String.singleton (Char.ofNat n)).toUTF8.toList

def utf8 (s : String) : List UInt8 := (points s.toList).flatMap pointBytes

/-- The characters of bytes, if they are UTF-8. -/
def ofUtf8? (bytes : List UInt8) : Option (List Char) :=
  (String.fromUTF8? ⟨bytes.toArray⟩).map fun s => ofPoints (s.toList.map Char.toNat)

/-! ### Facts -/

theorem letters_mark (c : Char) (cs : List Char) (h : isSpare c) :
    letters (mark :: c :: cs) = [mark, c] :: letters cs := by
  simp [letters, h]

@[simp] theorem flatten_letters (cs : List Char) : (letters cs).flatten = cs := by
  fun_induction letters cs <;> simp_all

theorem letters_eq_cons (c : Char) (cs : List Char) :
    ∃ r ls, letters (c :: cs) = (c :: r) :: ls := by
  cases cs with
  | nil => exact ⟨[], [], rfl⟩
  | cons c' cs =>
    by_cases h : c = mark ∧ isSpare c'
    · exact ⟨[c'], letters cs, by simp [letters, h]⟩
    · exact ⟨[], letters (c' :: cs), by simp [letters, h]⟩

theorem letters_flatten_take (n : Nat) (cs : List Char) :
    letters ((letters cs).take n).flatten = (letters cs).take n := by
  fun_induction letters cs generalizing n with
  | case1 => simp [letters]
  | case2 c => cases n <;> simp [letters]
  | case3 c c' cs h ih =>
    cases n with
    | zero => simp [letters]
    | succ n => simp [letters, h, ih]
  | case4 c c' cs h ih =>
    match n with
    | 0 => simp [letters]
    | 1 => simp [letters]
    | n + 2 =>
      specialize ih (n + 1)
      obtain ⟨r, ls, hl⟩ := letters_eq_cons c' cs
      simp only [hl, List.take_succ_cons, List.flatten_cons, List.cons_append,
        List.nil_append] at ih ⊢
      rw [letters, if_neg h, ih]

/-- A clipped text has as many letters as it is clipped to, at most. -/
theorem size_clip_le (n : Nat) (s : String) : size (clip n s) ≤ n := by
  simp only [size, clip, String.toList_ofList, letters_flatten_take]
  exact List.length_take_le ..

/-- A text that is short enough is clipped to itself. -/
theorem clip_eq_self {n : Nat} {s : String} (h : size s ≤ n) : clip n s = s := by
  simp [clip, List.take_of_length_le h]

end ChatFlow.Text

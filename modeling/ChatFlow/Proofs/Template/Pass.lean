import ChatFlow.Template
import Mathlib.Data.List.Infix

/-!
# Passes over a template

A template is filled in by passes, one for each field of the contact and one for all variables
(`toList_fill`). A `Pass` finds placeholders, which are made of a few characters only, and puts
values in their place: so it works on what stands before and after any other character separately
(`Pass.parts_append_cons`), and where no two braces stand together it finds nothing.
-/

namespace ChatFlow.Template

/-- A character that a placeholder may have. -/
def isSlot (c : Char) : Bool := c == '{' || c == '}' || c == '.' || Text.isWord c

/-- Whether a text starts with two braces. -/
def opens : List Char → Bool
  | '{' :: '{' :: _ => true
  | _ => false

/-- A search for placeholders. For a text that starts with one, `find` gives what comes in its
place, and how many characters it has after the first. -/
structure Pass where
  find : List Char → Option (List Char × Nat)
  /-- A placeholder is found by its own characters, whatever follows it. -/
  placed {cs new : List Char} {n : Nat} : find cs = some (new, n) →
    ∃ m r, cs = m ++ r ∧ m.length = n + 1 ∧ opens m = true ∧ (∀ c ∈ m, isSlot c = true) ∧
      ∀ r', find (m ++ r') = some (new, n)

/-- What a pass makes of a piece of a text: it keeps a character, or fills in a placeholder. -/
inductive Part where
  | kept (c : Char)
  | filled (new : List Char)
  deriving DecidableEq, Repr

def Part.chars : Part → List Char
  | kept c => [c]
  | filled new => new

namespace Pass

/-- The parts of a text, after passing over the first `skip` characters. -/
def partsFrom (p : Pass) (skip : Nat) : List Char → List Part
  | [] => []
  | c :: cs => match skip with
    | n + 1 => p.partsFrom n cs
    | 0 => match p.find (c :: cs) with
      | some (new, n) => .filled new :: p.partsFrom n cs
      | none => .kept c :: p.partsFrom 0 cs

def parts (p : Pass) (cs : List Char) : List Part := p.partsFrom 0 cs

/-- The text with the values in place of the placeholders. -/
def fill (p : Pass) (cs : List Char) : List Char := (p.parts cs).flatMap Part.chars

/-- The values that come in place of placeholders. -/
def values (p : Pass) (cs : List Char) : List (List Char) :=
  (p.parts cs).filterMap fun
    | .kept _ => none
    | .filled new => some new

variable {p : Pass} {cs r m new : List Char} {n : Nat} {c : Char}

/-! ### Parts -/

theorem partsFrom_append (p : Pass) (m r : List Char) : p.partsFrom m.length (m ++ r) = p.parts r := by
  induction m with
  | nil => rfl
  | cons c m ih => exact ih

theorem parts_placed (hfind : p.find (m ++ r) = some (new, n)) (hm : m.length = n + 1) :
    p.parts (m ++ r) = .filled new :: p.parts r := by
  cases m with
  | nil => cases hm
  | cons c m =>
    rw [List.length_cons, Nat.add_right_cancel_iff] at hm
    subst hm
    rw [parts, List.cons_append, partsFrom, ← List.cons_append, hfind]
    exact congrArg _ (partsFrom_append p m r)

theorem parts_cons_of_find (h : p.find (c :: cs) = none) :
    p.parts (c :: cs) = .kept c :: p.parts cs := by
  rw [parts, partsFrom, h]; rfl

theorem find_eq_none (h : opens cs = false) : p.find cs = none := by
  rw [Option.eq_none_iff_forall_not_mem]
  rintro ⟨new, n⟩ hfind
  obtain ⟨m, r, rfl, -, hopens, -⟩ := p.placed hfind
  unfold opens at hopens
  split at hopens
  · cases h
  · cases hopens

theorem find_eq_none_of_append (h : p.find (m ++ r) = none) : p.find m = none := by
  rw [Option.eq_none_iff_forall_not_mem]
  rintro ⟨new, n⟩ hsome
  obtain ⟨m', r', hm, -, -, -, hfound⟩ := p.placed hsome
  rw [hm, List.append_assoc, hfound] at h
  cases h

theorem opens_cons_of_ne (h : c ≠ '{') : opens (c :: cs) = false := by
  unfold opens
  split
  · rename_i heq; cases heq; exact absurd rfl h
  · rfl

theorem opens_brace_cons (h : ∀ c ∈ cs.head?, c ≠ '{') : opens ('{' :: cs) = false := by
  unfold opens
  split
  · rename_i heq; cases heq; exact absurd rfl (h _ rfl)
  · rfl

theorem ne_of_isSlot_eq_false (h : isSlot c = false) : c ≠ '{' := by
  rintro rfl; cases h

/-- A pass works on what stands before and after a character that no placeholder has. -/
theorem parts_append_cons (hc : isSlot c = false) (p : Pass) (a b : List Char) :
    p.parts (a ++ c :: b) = p.parts a ++ .kept c :: p.parts b := by
  induction hn : a.length using Nat.strong_induction_on generalizing a with
  | _ n ih =>
    subst hn
    cases a with
    | nil =>
      exact parts_cons_of_find (find_eq_none (opens_cons_of_ne (ne_of_isSlot_eq_false hc)))
    | cons x a =>
      cases hfind : p.find (x :: a ++ c :: b) with
      | none =>
        have hnone := find_eq_none_of_append hfind
        rw [List.cons_append] at hfind ⊢
        rw [parts_cons_of_find hfind, parts_cons_of_find hnone, ih a.length (by simp) a rfl]
        rfl
      | some found =>
        obtain ⟨new, n⟩ := found
        obtain ⟨m, r, hm, hlen, -, hslot, hfound⟩ := p.placed hfind
        -- The placeholder ends before the character, which it cannot have.
        obtain ⟨a', ha', rfl⟩ : ∃ a', x :: a = m ++ a' ∧ r = a' ++ c :: b := by
          rcases List.append_eq_append_iff.1 hm with ⟨m', rfl, hr⟩ | ⟨a', ha', hr⟩
          · cases m' with
            | nil => exact ⟨[], by simp, by simpa using hr.symm⟩
            | cons y m' =>
              cases hr
              have := hslot c (by simp)
              rw [hc] at this; cases this
          · exact ⟨a', ha', hr⟩
        have hshort : a'.length < (x :: a).length := by rw [ha', List.length_append, hlen]; omega
        rw [hm, parts_placed (hfound _) hlen, ha', parts_placed (hfound _) hlen,
          ih a'.length hshort a' rfl]
        rfl

/-! ### Filling in -/

theorem fill_cons (h : opens (c :: cs) = false) : p.fill (c :: cs) = c :: p.fill cs := by
  rw [fill, parts_cons_of_find (find_eq_none h)]; rfl

theorem fill_placed (hfind : p.find (m ++ r) = some (new, n)) (hm : m.length = n + 1) :
    p.fill (m ++ r) = new ++ p.fill r := by
  rw [fill, parts_placed hfind hm]
  rfl

theorem fill_cons_of_ne (h : c ≠ '{') : p.fill (c :: cs) = c :: p.fill cs :=
  fill_cons (opens_cons_of_ne h)

theorem fill_append_of_ne (h : ∀ c ∈ m, c ≠ '{') : p.fill (m ++ r) = m ++ p.fill r := by
  induction m with
  | nil => rfl
  | cons c m ih =>
    obtain ⟨hc, hm⟩ := List.forall_mem_cons.1 h
    rw [List.cons_append, fill_cons_of_ne hc, ih hm]
    rfl

theorem fill_append_cons (hc : isSlot c = false) (p : Pass) (a b : List Char) :
    p.fill (a ++ c :: b) = p.fill a ++ c :: p.fill b := by
  simp [fill, parts_append_cons hc, Part.chars]

theorem values_append_cons (hc : isSlot c = false) (p : Pass) (a b : List Char) :
    p.values (a ++ c :: b) = p.values a ++ p.values b := by
  simp [values, parts_append_cons hc]

theorem values_cons_of_find (h : p.find (c :: cs) = none) : p.values (c :: cs) = p.values cs := by
  simp [values, parts_cons_of_find h]

theorem values_cons_of_ne (h : c ≠ '{') : p.values (c :: cs) = p.values cs :=
  values_cons_of_find (find_eq_none (opens_cons_of_ne h))

theorem values_append_of_ne (h : ∀ c ∈ m, c ≠ '{') : p.values (m ++ r) = p.values r := by
  induction m with
  | nil => rfl
  | cons c m ih =>
    obtain ⟨hc, hm⟩ := List.forall_mem_cons.1 h
    rw [List.cons_append, values_cons_of_ne hc, ih hm]

theorem mem_of_kept_mem_partsFrom {skip : Nat} (h : .kept c ∈ p.partsFrom skip cs) : c ∈ cs := by
  induction cs generalizing skip with
  | nil => cases h
  | cons x cs ih =>
    unfold partsFrom at h
    split at h
    · exact List.mem_cons_of_mem _ (ih h)
    · split at h
      · rcases List.mem_cons.1 h with h | h
        · cases h
        · exact List.mem_cons_of_mem _ (ih h)
      · rcases List.mem_cons.1 h with h | h
        · cases h; exact List.mem_cons_self
        · exact List.mem_cons_of_mem _ (ih h)

/-- A character of the text that was filled in was there before or comes from a value. -/
theorem mem_fill (p : Pass) (h : c ∈ p.fill cs) : c ∈ cs ∨ ∃ new ∈ p.values cs, c ∈ new := by
  obtain ⟨part, hpart, hc⟩ := List.mem_flatMap.1 h
  cases part with
  | kept c' =>
    rw [Part.chars, List.mem_singleton] at hc
    subst hc
    exact .inl (mem_of_kept_mem_partsFrom hpart)
  | filled new => exact .inr ⟨new, List.mem_filterMap.2 ⟨_, hpart, rfl⟩, hc⟩

theorem fill_eq_self (h : ∀ t, t <:+ cs → p.find t = none) : p.fill cs = cs := by
  induction cs with
  | nil => rfl
  | cons c cs ih =>
    rw [fill, parts_cons_of_find (h _ (List.suffix_refl _))]
    exact congrArg (c :: ·) (ih fun t ht => h t (ht.trans (List.suffix_cons c cs)))

/-- A pass that puts `new` in place of one piece of text. -/
def replacing (part new : List Char) (hopens : opens part = true)
    (hslot : ∀ c ∈ part, isSlot c = true) : Pass where
  find cs := if part.isPrefixOf cs then some (new, part.length - 1) else none
  placed := by
    intro cs new' n h
    split at h
    · rename_i hprefix
      cases h
      obtain ⟨r, rfl⟩ := List.isPrefixOf_iff_prefix.1 hprefix
      have hlen : part ≠ [] := by rintro rfl; cases hopens
      exact ⟨part, r, rfl, (Nat.sub_add_cancel (List.length_pos_iff.2 hlen)).symm, hopens, hslot,
        fun r' => if_pos (List.isPrefixOf_iff_prefix.2 (List.prefix_append part r'))⟩
    · cases h

end Pass

/-! ### The passes of a session -/

variable {cs name : List Char}

theorem isSlot_contactPlaceholder : ∀ field ∈ contactFields,
    ∀ c ∈ contactPlaceholder field, isSlot c = true := by
  intro field hfield
  have hall : contactFields.all (fun field => (contactPlaceholder field).all isSlot) = true := by
    decide
  exact List.all_eq_true.1 (List.all_eq_true.1 hall field hfield)

/-- The pass that fills in a field of the contact. -/
def contactPass (c : Contact) (field : { field // field ∈ contactFields }) : Pass :=
  .replacing (contactPlaceholder field) (c.get field).toList rfl
    (isSlot_contactPlaceholder field field.2)

theorem fill_contactPlaceholder (c : Contact) (f : { field // field ∈ contactFields })
    (r : List Char) : (contactPass c f).fill (contactPlaceholder f ++ r) =
      (c.get f).toList ++ (contactPass c f).fill r :=
  Pass.fill_placed (if_pos (List.isPrefixOf_iff_prefix.2 (List.prefix_append _ _))) rfl

theorem placeholder?_eq_some_iff : placeholder? cs = some name ↔
    name ≠ [] ∧ (∀ c ∈ name, Text.isWord c = true) ∧
      ∃ r, cs = '{' :: '{' :: (name ++ '}' :: '}' :: r) := by
  constructor
  · intro h
    unfold placeholder? at h
    split at h
    · rename_i r
      dsimp only at h
      split at h
      · cases h
      · rename_i rest hrest hne
        cases h
        refine ⟨hne, List.all_eq_true.1 List.all_takeWhile, rest, ?_⟩
        rw [← hrest, List.takeWhile_append_dropWhile]
      · cases h
    · cases h
  · rintro ⟨hne, hword, r, rfl⟩
    have hbrace : Text.isWord '}' = false := by decide
    have htake : (name ++ '}' :: '}' :: r).takeWhile Text.isWord = name := by
      rw [List.takeWhile_append_of_pos hword, List.takeWhile_cons_of_neg (by simp [hbrace]),
        List.append_nil]
    have hdrop : (name ++ '}' :: '}' :: r).dropWhile Text.isWord = '}' :: '}' :: r := by
      rw [List.dropWhile_append_of_pos hword, List.dropWhile_cons_of_neg (by simp [hbrace])]
    obtain ⟨c, name, rfl⟩ := List.exists_cons_of_ne_nil hne
    rw [placeholder?]
    simp only [htake, hdrop]

theorem placeholder?_variablePlaceholder (hne : name ≠ [])
    (hword : ∀ c ∈ name, Text.isWord c = true) (r : List Char) :
    placeholder? (variablePlaceholder name ++ r) = some name :=
  placeholder?_eq_some_iff.2 ⟨hne, hword, r, by simp [variablePlaceholder]⟩

/-- The pass that fills in the variables. -/
def variablesPass (vars : Assoc String) : Pass where
  find cs := (placeholder? cs).map fun name => (valueOf vars name, name.length + 3)
  placed := by
    intro cs new n h
    obtain ⟨name, hname, h⟩ := Option.map_eq_some_iff.1 h
    cases h
    obtain ⟨hne, hword, r, rfl⟩ := placeholder?_eq_some_iff.1 hname
    refine ⟨variablePlaceholder name, r, by simp [variablePlaceholder],
      by simp [variablePlaceholder], rfl, fun c hc => ?_, fun r' => ?_⟩
    · simp only [variablePlaceholder, List.mem_append, List.mem_cons, List.not_mem_nil,
        or_false] at hc
      rcases hc with ((rfl | rfl) | hc) | (rfl | rfl)
      · rfl
      · rfl
      · simp [isSlot, hword c hc]
      · rfl
      · rfl
    · rw [placeholder?_variablePlaceholder hne hword]; rfl

theorem fill_variablePlaceholder (vars : Assoc String) (hne : name ≠ [])
    (hword : ∀ c ∈ name, Text.isWord c = true) (r : List Char) :
    (variablesPass vars).fill (variablePlaceholder name ++ r) =
      valueOf vars name ++ (variablesPass vars).fill r := by
  refine Pass.fill_placed (n := name.length + 3) ?_ (by simp [variablePlaceholder])
  show (placeholder? (variablePlaceholder name ++ r)).map _ = _
  rw [placeholder?_variablePlaceholder hne hword]
  rfl

theorem replaceFrom_eq (part new : List Char) (hopens : opens part = true)
    (hslot : ∀ c ∈ part, isSlot c = true) (skip : Nat) (cs : List Char) :
    Text.replaceFrom part new skip cs =
      ((Pass.replacing part new hopens hslot).partsFrom skip cs).flatMap Part.chars := by
  induction cs generalizing skip with
  | nil => rfl
  | cons c cs ih =>
    cases skip with
    | succ n => exact ih n
    | zero =>
      rw [Text.replaceFrom, Pass.partsFrom, Pass.replacing]
      dsimp only
      split
      · rw [ih]; rfl
      · rw [ih]; rfl

theorem fillFrom_eq (vars : Assoc String) (skip : Nat) (cs : List Char) :
    fillFrom vars skip cs = ((variablesPass vars).partsFrom skip cs).flatMap Part.chars := by
  induction cs generalizing skip with
  | nil => rfl
  | cons c cs ih =>
    cases skip with
    | succ n => exact ih n
    | zero =>
      rw [fillFrom, Pass.partsFrom, variablesPass]
      dsimp only
      cases placeholder? (c :: cs) with
      | none =>
        dsimp only [Option.map_none]
        rw [ih]; rfl
      | some name =>
        dsimp only [Option.map_some]
        rw [ih]; rfl

/-- The passes that fill in a template, in their order. -/
def passes (s : Session) : List Pass :=
  contactFields.attach.map (contactPass s.contact) ++ [variablesPass s.vars]

def fillAll (ps : List Pass) (cs : List Char) : List Char := ps.foldl (fun cs p => p.fill cs) cs

theorem fillAll_cons (p : Pass) (ps : List Pass) (cs : List Char) :
    fillAll (p :: ps) cs = fillAll ps (p.fill cs) := rfl

theorem fillAll_singleton (p : Pass) (cs : List Char) : fillAll [p] cs = p.fill cs := rfl

theorem fillAll_append (ps qs : List Pass) (cs : List Char) :
    fillAll (ps ++ qs) cs = fillAll qs (fillAll ps cs) := List.foldl_append

theorem fillContact_eq (c : Contact) (cs : List Char) :
    fillContact c cs = fillAll (contactFields.attach.map (contactPass c)) cs := by
  rw [fillAll, List.foldl_map, fillContact, ← List.foldl_attach]
  refine congrArg (fun f => List.foldl f cs contactFields.attach)
    (funext fun cs => funext fun field => ?_)
  exact replaceFrom_eq ..

theorem toList_fill_variables (s : Session) (t : String) :
    (s.fill t).toList = (variablesPass s.vars).fill (fillContact s.contact t.toList) := by
  rw [Session.fill, String.toList_ofList]
  exact fillFrom_eq ..

theorem toList_fill (s : Session) (t : String) : (s.fill t).toList = fillAll (passes s) t.toList := by
  rw [toList_fill_variables, fillContact_eq, passes, fillAll_append, fillAll_singleton]

end ChatFlow.Template

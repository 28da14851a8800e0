import ChatFlow.Proofs.Template.Pass

/-!
# Templates in fragments

A template that is a row of fragments is filled in fragment by fragment (`fill_fragments`). A pass
works on each of them alone, wherever it stands (`Pass.fill_flatMap`): it finds its own placeholder
(`Pass.fill_placed`), and goes over any other one (`Pass.fill_unplaced`) and over text without a
brace.
-/

namespace ChatFlow.Template

/-- A fragment of a template: text, the placeholder of a variable, or that of a field. -/
inductive Fragment where
  | literal (text : String) (hopen : '{' ∉ text.toList)
  | named (name : String) (hne : name ≠ "") (hword : ∀ c ∈ name.toList, Text.isWord c = true)
  | field (field : { field // field ∈ contactFields })

namespace Fragment

/-- A fragment as it is written. -/
def text : Fragment → String
  | literal text _ => text
  | named name _ _ => "\x7b\x7b" ++ name ++ "\x7d\x7d"
  | field f => "\x7b\x7bcontact." ++ f ++ "\x7d\x7d"

/-- What a fragment stands for: the placeholder of a variable that was never set, for itself. -/
def render (s : Session) : Fragment → String
  | literal text _ => text
  | named name hne hword => (s.vars.get? name).getD (named name hne hword).text
  | field f => s.contact.get f

/-- The characters of a fragment when some of the fields have been filled in. -/
def chars (c : Contact) (filled : List String) : Fragment → List Char
  | literal text _ => text.toList
  | named name _ _ => variablePlaceholder name.toList
  | field f => if f.1 ∈ filled then (c.get f).toList else contactPlaceholder f

theorem chars_nil (c : Contact) (fragment : Fragment) :
    fragment.chars c [] = fragment.text.toList := by
  cases fragment with
  | literal => rfl
  | named => simp [chars, text, variablePlaceholder]
  | field => simp [chars, text, contactPlaceholder]

end Fragment

/-! ### One pass over fragments -/

namespace Pass

variable {p : Pass} {m r new body : List Char} {n : Nat}

theorem fill_unplaced (hfind : p.find (variablePlaceholder body ++ r) = none) (hbody : '{' ∉ body) :
    p.fill (variablePlaceholder body ++ r) = variablePlaceholder body ++ p.fill r := by
  have hrest : ∀ c ∈ body ++ ['}', '}'], c ≠ '{' := by
    rintro c hc rfl
    rcases List.mem_append.1 hc with hc | hc
    · exact hbody hc
    · exact absurd hc (by decide)
  have hshape : variablePlaceholder body = '{' :: '{' :: (body ++ ['}', '}']) := rfl
  have hopens : opens ('{' :: (body ++ ['}', '}'] ++ r)) = false := by
    refine opens_brace_cons fun c hc => hrest c ?_
    cases body <;> cases hc <;> simp
  rw [hshape, List.cons_append, List.cons_append] at hfind
  rw [hshape, List.cons_append, List.cons_append, fill, parts_cons_of_find hfind]
  have hsecond := fill_cons (p := p) hopens
  rw [fill_append_of_ne hrest] at hsecond
  exact congrArg ('{' :: ·) hsecond

theorem fill_flatMap {α : Type} {f g : α → List Char} {l : List α}
    (h : ∀ x ∈ l, ∀ r, p.fill (f x ++ r) = g x ++ p.fill r) :
    p.fill (l.flatMap f) = l.flatMap g := by
  induction l with
  | nil => rfl
  | cons x l ih =>
    obtain ⟨hx, hl⟩ := List.forall_mem_cons.1 h
    rw [List.flatMap_cons, List.flatMap_cons, hx, ih hl]

end Pass

/-! ### The passes of a session -/

theorem takeWhile_of_not_mem {a r : List Char} {c : Char} (h : c ∉ a) :
    (a ++ c :: r).takeWhile (· != c) = a := by
  have hne : ∀ x ∈ a, (x != c) = true := fun x hx => bne_iff_ne.2 (ne_of_mem_of_not_mem hx h)
  rw [List.takeWhile_append_of_pos hne, List.takeWhile_cons_of_neg (by simp), List.append_nil]

/-- A placeholder is told by what stands between its braces. -/
theorem eq_of_variablePlaceholder {a b r : List Char} (ha : '}' ∉ a) (hb : '}' ∉ b)
    (h : variablePlaceholder a <+: variablePlaceholder b ++ r) : a = b := by
  obtain ⟨t, ht⟩ := h
  have heq : a ++ '}' :: ('}' :: t) = b ++ '}' :: ('}' :: r) := by
    simpa [variablePlaceholder] using ht
  rw [← takeWhile_of_not_mem ha, heq, takeWhile_of_not_mem hb]

/-- What stands between the braces of the placeholder of a field. -/
def contactName (field : String) : List Char := ("contact." ++ field).toList

theorem contactPlaceholder_eq (field : String) :
    contactPlaceholder field = variablePlaceholder (contactName field) := rfl

theorem not_mem_contactName : ∀ f ∈ contactFields, '{' ∉ contactName f ∧ '}' ∉ contactName f := by
  decide

theorem contactName_injective {f g : String} (h : contactName f = contactName g) : f = g :=
  (String.append_right_inj _).1 (String.toList_inj.1 h)

variable {c : Contact} {s : Session} {filled : List String}

theorem find_contactPass_of_ne {f : { field // field ∈ contactFields }} {body r : List Char}
    (hbody : '}' ∉ body) (hne : contactName f.1 ≠ body) :
    (contactPass c f).find (variablePlaceholder body ++ r) = none := by
  refine if_neg fun hprefix => hne ?_
  exact eq_of_variablePlaceholder (not_mem_contactName f f.2).2 hbody
    (List.isPrefixOf_iff_prefix.1 hprefix)

theorem not_mem_of_word {name : String} (hword : ∀ c ∈ name.toList, Text.isWord c = true) {c : Char}
    (hc : Text.isWord c = false) : c ∉ name.toList := fun hmem => by
  rw [hword c hmem] at hc; cases hc

theorem fill_contactPass_named {name : String} (hword : ∀ c ∈ name.toList, Text.isWord c = true)
    (f : { field // field ∈ contactFields }) (r : List Char) :
    (contactPass c f).fill (variablePlaceholder name.toList ++ r) =
      variablePlaceholder name.toList ++ (contactPass c f).fill r := by
  -- The name of a variable has no point, and that of a field has one.
  have hdot : contactName f.1 ≠ name.toList := fun h => by
    refine not_mem_of_word (c := '.') hword (by decide) (h ▸ ?_)
    simp [contactName]
  exact Pass.fill_unplaced (find_contactPass_of_ne (not_mem_of_word hword (by decide)) hdot)
    (not_mem_of_word hword (by decide))

theorem fill_placeholder {name value : String} (hne : name ≠ "")
    (hword : ∀ c ∈ name.toList, Text.isWord c = true) (hvalue : s.vars.get? name = some value) :
    s.fill ("\x7b\x7b" ++ name ++ "\x7d\x7d") = value := by
  have hcontact (fields : List { field // field ∈ contactFields }) :
      fillAll (fields.map (contactPass s.contact)) (variablePlaceholder name.toList) =
        variablePlaceholder name.toList := by
    induction fields with
    | nil => rfl
    | cons f fields ih =>
      have hstep := fill_contactPass_named (c := s.contact) hword f []
      rw [List.append_nil] at hstep
      rw [List.map_cons, fillAll_cons, hstep, show (contactPass s.contact f).fill [] = [] from rfl,
        List.append_nil, ih]
  have hwritten : ("\x7b\x7b" ++ name ++ "\x7d\x7d").toList = variablePlaceholder name.toList := by
    simp [variablePlaceholder]
  have hfill := fill_variablePlaceholder s.vars (by simpa using hne) hword []
  rw [List.append_nil, valueOf, String.ofList_toList, hvalue] at hfill
  apply String.toList_inj.1
  rw [toList_fill_variables, hwritten, fillContact_eq, hcontact, hfill]
  exact List.append_nil _

/-- The pass for a field fills in the placeholder of the field, and leaves the other fragments. -/
theorem fill_contactPass (hvalue : ∀ f ∈ contactFields, '{' ∉ (c.get f).toList)
    (f : { field // field ∈ contactFields }) (fragment : Fragment) (r : List Char) :
    (contactPass c f).fill (fragment.chars c filled ++ r) =
      fragment.chars c (filled ++ [f.1]) ++ (contactPass c f).fill r := by
  cases fragment with
  | literal text hopen => exact Pass.fill_append_of_ne fun x hx h => hopen (h ▸ hx)
  | named name hne hword => exact fill_contactPass_named hword f r
  | field g =>
    by_cases hg : g.1 ∈ filled
    · simp only [Fragment.chars, if_pos hg, if_pos (List.mem_append_left _ hg)]
      exact Pass.fill_append_of_ne fun x hx h => hvalue g g.2 (h ▸ hx)
    · by_cases hfg : f = g
      · subst hfg
        have hlater : f.1 ∈ filled ++ [f.1] := List.mem_append_right _ (List.mem_singleton_self _)
        simp only [Fragment.chars, if_neg hg, if_pos hlater]
        exact fill_contactPlaceholder c f r
      · have hne : g.1 ≠ f.1 := fun h => hfg (Subtype.ext h.symm)
        have hlater : g.1 ∉ filled ++ [f.1] := by simp [hg, hne]
        simp only [Fragment.chars, if_neg hg, if_neg hlater, contactPlaceholder_eq]
        obtain ⟨hopen, hclose⟩ := not_mem_contactName g g.2
        exact Pass.fill_unplaced
          (find_contactPass_of_ne hclose fun h => hne (contactName_injective h).symm) hopen

/-- The passes for some fields fill in the placeholders of just these fields. -/
theorem fillAll_contactPass (hvalue : ∀ f ∈ contactFields, '{' ∉ (c.get f).toList)
    (fields : List { field // field ∈ contactFields }) (filled : List String)
    (fragments : List Fragment) :
    fillAll (fields.map (contactPass c)) (fragments.flatMap (Fragment.chars c filled)) =
      fragments.flatMap (Fragment.chars c (filled ++ fields.map (·.1))) := by
  induction fields generalizing filled with
  | nil => rw [List.map_nil, List.map_nil, List.append_nil]; rfl
  | cons f fields ih =>
    have hstep : (contactPass c f).fill (fragments.flatMap (Fragment.chars c filled)) =
        fragments.flatMap (Fragment.chars c (filled ++ [f.1])) :=
      Pass.fill_flatMap fun fragment _ r => fill_contactPass hvalue f fragment r
    rw [List.map_cons, fillAll_cons, hstep, ih, List.append_assoc]
    rfl

/-- The pass for the variables fills in their placeholders, and leaves what has been filled in. -/
theorem fill_variablesPass (hvalue : ∀ f ∈ contactFields, '{' ∉ (s.contact.get f).toList)
    (fragment : Fragment) (r : List Char) :
    (variablesPass s.vars).fill (fragment.chars s.contact contactFields ++ r) =
      (fragment.render s).toList ++ (variablesPass s.vars).fill r := by
  cases fragment with
  | literal text hopen => exact Pass.fill_append_of_ne fun x hx h => hopen (h ▸ hx)
  | named name hne hword =>
    have hvalueOf : valueOf s.vars name.toList =
        ((Fragment.named name hne hword).render s).toList := by
      rw [valueOf, String.ofList_toList, Fragment.render]
      cases s.vars.get? name with
      | none => exact Fragment.chars_nil s.contact (.named name hne hword)
      | some value => rfl
    rw [← hvalueOf]
    exact fill_variablePlaceholder s.vars (by simpa using hne) hword r
  | field f =>
    simp only [Fragment.chars, if_pos f.2]
    exact Pass.fill_append_of_ne fun x hx h => hvalue f f.2 (h ▸ hx)

theorem orDefault_empty (value : String) : Contact.get.orDefault "" value = value := by
  unfold Contact.get.orDefault
  split
  · rename_i hempty
    exact (String.isEmpty_iff.1 hempty).symm
  · rfl

theorem not_mem_contactField (hname : '{' ∉ c.name.toList) (hphone : '{' ∉ c.phoneNumber.toList)
    (hemail : '{' ∉ c.email.toList) : ∀ f ∈ contactFields, '{' ∉ (c.get f).toList := by
  have hget : c.get "name" = c.name ∧ c.get "phone_number" = c.phoneNumber ∧
      c.get "email" = c.email :=
    ⟨orDefault_empty c.name, orDefault_empty c.phoneNumber, orDefault_empty c.email⟩
  simpa [contactFields, hget] using ⟨hname, hphone, hemail⟩

/-- Templates are filled in fragment by fragment: if no field of the contact has an opening brace,
then a template that is a row of fragments gives what the fragments stand for, in a row. The value
of a variable may be any text, and stays as it is. -/
theorem fill_fragments (s : Session) (fragments : List Fragment)
    (hname : '{' ∉ s.contact.name.toList) (hphone : '{' ∉ s.contact.phoneNumber.toList)
    (hemail : '{' ∉ s.contact.email.toList) :
    s.fillOption (some (String.join (fragments.map Fragment.text))) =
      String.join (fragments.map (Fragment.render s)) := by
  have hvalue := not_mem_contactField hname hphone hemail
  have hwritten : (String.join (fragments.map Fragment.text)).toList =
      fragments.flatMap (Fragment.chars s.contact []) := by
    rw [String.toList_join, List.flatMap_map]
    exact List.flatMap_congr fun fragment _ => (fragment.chars_nil s.contact).symm
  have hcontact : fillAll (contactFields.attach.map (contactPass s.contact))
      (fragments.flatMap (Fragment.chars s.contact [])) =
        fragments.flatMap (Fragment.chars s.contact contactFields) := by
    rw [fillAll_contactPass hvalue]
    rfl
  have hvariables : (variablesPass s.vars).fill
      (fragments.flatMap (Fragment.chars s.contact contactFields)) =
        fragments.flatMap fun fragment => (fragment.render s).toList :=
    Pass.fill_flatMap fun fragment _ r => fill_variablesPass hvalue fragment r
  apply String.toList_inj.1
  calc (s.fill (String.join (fragments.map Fragment.text))).toList
      = fillAll (passes s) (fragments.flatMap (Fragment.chars s.contact [])) := by
        rw [toList_fill, hwritten]
    _ = (variablesPass s.vars).fill
          (fragments.flatMap (Fragment.chars s.contact contactFields)) := by
        rw [passes, fillAll_append, hcontact]; rfl
    _ = fragments.flatMap fun fragment => (fragment.render s).toList := hvariables
    _ = (String.join (fragments.map (Fragment.render s))).toList := by
        rw [String.toList_join, List.flatMap_map]

/-- A value that looks like placeholders is not filled in again. -/
theorem fill_fragments_written_value :
    let s : Session := { Session.start (.ofInt 0) "c" "Sara" with
      vars := [("a", "\x7b\x7bcontact.name\x7d\x7d"), ("b", "")] }
    s.fillOption
        (some "\x7b\x7bcontact.name\x7d\x7d, \x7b\x7ba\x7d\x7d\x7b\x7bb\x7d\x7d\x7b\x7bc\x7d\x7d") =
      "Sara, \x7b\x7bcontact.name\x7d\x7d\x7b\x7bc\x7d\x7d" := by
  intro s
  have hword {name : String} (h : name.toList.all Text.isWord = true) :
      ∀ c ∈ name.toList, Text.isWord c = true := List.all_eq_true.1 h
  exact fill_fragments s [.field ⟨"name", List.mem_cons_self⟩, .literal ", " (by decide),
    .named "a" (by decide) (hword rfl), .named "b" (by decide) (hword rfl),
    .named "c" (by decide) (hword rfl)] (by decide) (by decide) (by decide)

end ChatFlow.Template

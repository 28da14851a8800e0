import ChatFlow.Proofs.Template.Pass

/-!
# What a template depends on

A variable matters to a template exactly if its placeholder is there once the fields of the contact
have been filled in (`variable_is_ignored_iff`). It may be there without being written: a field can
hold one, or complete one that has been begun. A field without an opening brace that does not stand
behind a placeholder which has been begun brings in none (`mentions_of_fillContact`).
-/

namespace ChatFlow.Template

/-- The placeholder of a variable stands in a text. Only a word is a name there. -/
structure Mentions (cs : List Char) (name : String) : Prop where
  ne_empty : name ≠ ""
  word : ∀ c ∈ name.toList, Text.isWord c = true
  occurs : variablePlaceholder name.toList <:+: cs

/-- A template comes out the same whatever a variable is, and whether it is set or not. -/
def Ignores (s : Session) (t name : String) : Prop :=
  ∀ vars : Assoc String, (∀ k, k ≠ name → vars.get? k = s.vars.get? k) →
    ({ s with vars } : Session).fill t = s.fill t

variable {cs a r m : List Char} {c : Char} {name : String} {s : Session} {t : String}
  {vars vars' : Assoc String}

/-! ### Variables that are not mentioned -/

theorem fillFrom_congr (h : ∀ name, Mentions cs name → vars.get? name = vars'.get? name)
    (skip : Nat) : fillFrom vars skip cs = fillFrom vars' skip cs := by
  induction cs generalizing skip with
  | nil => rfl
  | cons c cs ih =>
    have hrest (name : String) (hn : Mentions cs name) : vars.get? name = vars'.get? name :=
      h name ⟨hn.ne_empty, hn.word, hn.occurs.trans (List.suffix_cons c cs).isInfix⟩
    cases skip with
    | succ k => exact ih hrest k
    | zero =>
      rw [fillFrom, fillFrom]
      cases hfind : placeholder? (c :: cs) with
      | none => simp only [ih hrest]
      | some name =>
        obtain ⟨hne, hword, r, hr⟩ := placeholder?_eq_some_iff.1 hfind
        have hmentions : Mentions (c :: cs) (String.ofList name) :=
          ⟨by simpa using hne, by simpa using hword, [], r, by simp [hr, variablePlaceholder]⟩
        have hvalue : valueOf vars name = valueOf vars' name := by
          rw [valueOf, valueOf, h _ hmentions]
        simp only [hvalue, ih hrest]

theorem ignores_of_not_mentions (h : ¬ Mentions (fillContact s.contact t.toList) name) :
    Ignores s t name := by
  intro vars hvars
  have hfill : fillVariables vars (fillContact s.contact t.toList) =
      fillVariables s.vars (fillContact s.contact t.toList) :=
    fillFrom_congr (fun k hk => hvars k fun heq => h (heq ▸ hk)) 0
  exact congrArg String.ofList hfill

/-! ### Variables that are mentioned -/

/-- Two braces start no later than behind a placeholder that starts before them. -/
theorem exists_eq_variablePlaceholder_append {first : List Char} (hne : first ≠ [])
    (hword : ∀ c ∈ first, Text.isWord c = true) (ha : a ≠ [])
    (h : a ++ '{' :: '{' :: cs = variablePlaceholder first ++ r) :
    ∃ a', a = variablePlaceholder first ++ a' := by
  have hbrace : '{' ∉ first := fun hmem => absurd (hword _ hmem) (by decide)
  rcases List.append_eq_append_iff.1 h with ⟨m', hm', hr'⟩ | ⟨a', ha', -⟩
  · obtain ⟨x, a, rfl⟩ := List.exists_cons_of_ne_nil ha
    cases m' with
    | nil => exact ⟨[], by rw [hm', List.append_nil, List.append_nil]⟩
    | cons y m' =>
      obtain ⟨rfl, htail⟩ := List.cons.inj hr'
      have hrest : '{' :: (first ++ ['}', '}']) = a ++ '{' :: m' := (List.cons.inj hm').2
      cases a with
      | nil =>
        -- The second brace would be the first character of the name.
        obtain ⟨c, first, rfl⟩ := List.exists_cons_of_ne_nil hne
        rw [← (List.cons.inj hrest).2] at htail
        have hc : '{' = c := (List.cons.inj htail).1
        exact absurd (hc ▸ List.mem_cons_self) hbrace
      | cons z a =>
        have hmem : '{' ∈ first ++ ['}', '}'] := by
          rw [(List.cons.inj hrest).2]
          exact List.mem_append_right _ List.mem_cons_self
        rcases List.mem_append.1 hmem with hmem | hmem
        · exact absurd hmem hbrace
        · exact absurd hmem (by decide)
  · exact ⟨a', ha'⟩

/-- A placeholder is filled in wherever it stands: none that starts before it reaches into it. -/
theorem fill_append_variablePlaceholder (vars : Assoc String) {name : List Char} (hne : name ≠ [])
    (hword : ∀ c ∈ name, Text.isWord c = true) (a r : List Char) :
    (variablesPass vars).fill (a ++ (variablePlaceholder name ++ r)) =
      (variablesPass vars).fill a ++ (valueOf vars name ++ (variablesPass vars).fill r) := by
  induction hn : a.length using Nat.strong_induction_on generalizing a with
  | _ n ih =>
    subst hn
    cases a with
    | nil => exact fill_variablePlaceholder vars hne hword r
    | cons x a =>
      cases hfind : placeholder? (x :: a ++ (variablePlaceholder name ++ r)) with
      | none =>
        have hwhole : (variablesPass vars).find (x :: a ++ (variablePlaceholder name ++ r)) = none :=
          congrArg (Option.map _) hfind
        have hpart := Pass.find_eq_none_of_append hwhole
        rw [List.cons_append] at hwhole ⊢
        rw [Pass.fill, Pass.parts_cons_of_find hwhole, Pass.fill, Pass.parts_cons_of_find hpart]
        exact congrArg (x :: ·) (ih a.length (Nat.lt_succ_self _) a rfl)
      | some first =>
        obtain ⟨hne', hword', r', hr'⟩ := placeholder?_eq_some_iff.1 hfind
        obtain ⟨a', ha'⟩ := exists_eq_variablePlaceholder_append (r := r') hne' hword'
          (List.cons_ne_nil x a) (hr'.trans (by simp [variablePlaceholder]))
        have hshort : a'.length < (x :: a).length := by
          rw [ha', List.length_append, variablePlaceholder]
          simp
        rw [ha', List.append_assoc, fill_variablePlaceholder vars hne' hword',
          fill_variablePlaceholder vars hne' hword', ih a'.length hshort a' rfl, List.append_assoc]

theorem length_fill_le (h : ∀ name, (valueOf vars name).length ≤ (valueOf vars' name).length)
    (cs : List Char) :
    ((variablesPass vars).fill cs).length ≤ ((variablesPass vars').fill cs).length := by
  have hfrom (skip : Nat) : (fillFrom vars skip cs).length ≤ (fillFrom vars' skip cs).length := by
    induction cs generalizing skip with
    | nil => exact Nat.le_refl 0
    | cons c cs ih =>
      cases skip with
      | succ k => exact ih k
      | zero =>
        rw [fillFrom, fillFrom]
        cases placeholder? (c :: cs) with
        | none => exact Nat.succ_le_succ (ih 0)
        | some name =>
          dsimp only
          rw [List.length_append, List.length_append]
          exact Nat.add_le_add (h name) (ih _)
  have hall := hfrom 0
  rwa [fillFrom_eq, fillFrom_eq] at hall

theorem valueOf_put (vars : Assoc String) (name value : String) (n : List Char) :
    valueOf (vars.put name value) n =
      if String.ofList n = name then value.toList else valueOf vars n := by
  rw [valueOf, Assoc.get?_put, valueOf]
  by_cases h : String.ofList n = name
  · simp [h]
  · rw [if_neg h, if_neg (Ne.symm h)]

theorem not_ignores_of_mentions (h : Mentions (fillContact s.contact t.toList) name) :
    ¬ Ignores s t name := by
  intro hall
  obtain ⟨hne, hword, a, r, hcs⟩ := h
  have hput (value : String) :
      ((variablesPass (s.vars.put name value)).fill a).length + (value.toList.length +
        ((variablesPass (s.vars.put name value)).fill r).length) = (s.fill t).toList.length := by
    rw [← hall (s.vars.put name value) fun k hk => Assoc.get?_put_of_ne _ _ (Ne.symm hk),
      toList_fill_variables, ← hcs, List.append_assoc,
      fill_append_variablePlaceholder _ (by simpa using hne) hword, List.length_append,
      List.length_append, valueOf_put, if_pos String.ofList_toList]
  have hvalue : ∀ n, (valueOf (s.vars.put name "") n).length ≤
      (valueOf (s.vars.put name "x") n).length := by
    intro n
    rw [valueOf_put, valueOf_put]
    split
    · exact Nat.zero_le _
    · exact Nat.le_refl _
  have hbefore := length_fill_le hvalue a
  have hafter := length_fill_le hvalue r
  have hempty := hput ""
  have hletter := hput "x"
  have hlength : "".toList.length = 0 ∧ "x".toList.length = 1 := by decide
  omega

theorem ignores_iff : Ignores s t name ↔ ¬ Mentions (fillContact s.contact t.toList) name :=
  ⟨fun h hm => not_ignores_of_mentions hm h, ignores_of_not_mentions⟩

/-! ### What the contact brings in -/

/-- The start of a placeholder: some of its characters, but not all. -/
structure IsBegun (u : List Char) : Prop where
  ne_nil : u ≠ []
  more : ∃ body rest, (∀ c ∈ body, Text.isWord c = true ∨ c = '.') ∧ rest ≠ [] ∧
    u ++ rest = variablePlaceholder body

/-- A text ends with a placeholder that has been begun. -/
def EndsBegun (cs : List Char) : Prop := ∃ u, u <:+ cs ∧ IsBegun u

/-- No placeholder of a field stands behind one that has been begun. -/
def Apart (cs : List Char) : Prop :=
  ∀ a r, ∀ field ∈ contactFields, cs = a ++ (contactPlaceholder field ++ r) → ¬ EndsBegun a

variable {u : List Char} {contact : Contact} {f : { field // field ∈ contactFields }}

theorem EndsBegun.append (h : EndsBegun u) (a : List Char) : EndsBegun (a ++ u) := by
  obtain ⟨v, hv, hbegun⟩ := h
  exact ⟨v, hv.trans (List.suffix_append a u), hbegun⟩

theorem Apart.of_append (h : Apart (a ++ r)) : Apart r := by
  rintro a' r' field hfield rfl hends
  exact h (a ++ a') r' field hfield (List.append_assoc ..).symm (hends.append a)

/-- What follows a placeholder that has been begun stays as it is, as long as that goes on. -/
theorem prefix_of_prefix_fill (hapart : Apart (u ++ cs)) (hm : m <+: (contactPass contact f).fill cs)
    (hbegun : ∀ x, x <+: m → x ≠ m → EndsBegun (u ++ x)) : m <+: cs := by
  induction m generalizing u cs with
  | nil => exact List.nil_prefix
  | cons y m ih =>
    have hu : EndsBegun u := by
      have hnil := hbegun [] List.nil_prefix (List.cons_ne_nil y m).symm
      rwa [List.append_nil] at hnil
    cases cs with
    | nil => exact absurd hm.length_le (by simp [Pass.fill, Pass.parts, Pass.partsFrom])
    | cons c cs =>
      have hfind : (contactPass contact f).find (c :: cs) = none := by
        refine if_neg fun hprefix => ?_
        obtain ⟨r, hr⟩ := List.isPrefixOf_iff_prefix.1 hprefix
        exact hapart u r f f.2 (by rw [hr]) hu
      rw [Pass.fill, Pass.parts_cons_of_find hfind] at hm
      obtain ⟨rfl, htail⟩ : y = c ∧ m <+: (contactPass contact f).fill cs :=
        List.cons_prefix_cons.1 hm
      refine List.cons_prefix_cons.2 ⟨rfl, ih (u := u ++ [y]) ?_ htail fun x hx hne => ?_⟩
      · rwa [List.append_assoc]
      · rw [List.append_assoc]
        exact hbegun (y :: x) (List.cons_prefix_cons.2 ⟨rfl, hx⟩) fun h => hne (List.cons.inj h).2

theorem infix_of_infix_append (h : c ∉ a) (hm : c :: m <:+: a ++ r) : c :: m <:+: r := by
  induction a with
  | nil => exact hm
  | cons x a ih =>
    obtain ⟨hx, ha⟩ := not_or.1 (mt List.mem_cons.2 h)
    rcases List.infix_cons_iff.1 hm with hstart | hlater
    · exact absurd (List.cons_prefix_cons.1 hstart).1 hx
    · exact ih ha hlater

/-- A piece of text that begins a placeholder, and goes on beginning one up to its end, is not
brought in by a field. -/
theorem infix_of_infix_fill (hvalue : '{' ∉ (contact.get f).toList) (hapart : Apart cs)
    (hm : '{' :: m <:+: (contactPass contact f).fill cs)
    (hbegun : ∀ x, x <+: m → x ≠ m → EndsBegun ('{' :: x)) : '{' :: m <:+: cs := by
  induction hn : cs.length using Nat.strong_induction_on generalizing cs with
  | _ n ih =>
    subst hn
    by_cases hfirst : contactPlaceholder f <+: cs
    · obtain ⟨r, rfl⟩ := hfirst
      -- The piece starts with a brace, and so behind what is filled in.
      rw [fill_contactPlaceholder] at hm
      have hrest := infix_of_infix_append hvalue hm
      refine (ih r.length ?_ hapart.of_append hrest rfl).trans (List.suffix_append _ r).isInfix
      rw [List.length_append]
      exact Nat.lt_add_of_pos_left (by simp [contactPlaceholder])
    · cases cs with
      | nil => exact absurd hm.length_le (by simp [Pass.fill, Pass.parts, Pass.partsFrom])
      | cons c cs =>
        have hfind : (contactPass contact f).find (c :: cs) = none :=
          if_neg fun h => hfirst (List.isPrefixOf_iff_prefix.1 h)
        rw [Pass.fill, Pass.parts_cons_of_find hfind] at hm
        rcases List.infix_cons_iff.1 hm with hstart | hlater
        · obtain ⟨rfl, htail⟩ : '{' = c ∧ m <+: (contactPass contact f).fill cs :=
            List.cons_prefix_cons.1 hstart
          have hprefix := prefix_of_prefix_fill (u := ['{']) hapart htail hbegun
          exact (List.cons_prefix_cons.2 ⟨rfl, hprefix⟩).isInfix
        · exact (ih cs.length (Nat.lt_succ_self _) (hapart.of_append (a := [c])) hlater rfl).trans
            (List.suffix_cons c cs).isInfix

/-! ### Fields -/

theorem isBegun_of_prefix {body : List Char} (hbody : ∀ c ∈ body, Text.isWord c = true ∨ c = '.')
    (hu : u <+: variablePlaceholder body) (hne : u ≠ []) (hpart : u ≠ variablePlaceholder body) :
    IsBegun u := by
  obtain ⟨rest, hrest⟩ := hu
  refine ⟨hne, body, rest, hbody, ?_, hrest⟩
  rintro rfl
  exact hpart (by rw [← hrest, List.append_nil])

theorem IsBegun.exists_eq (h : IsBegun u) : ∃ u', u = '{' :: u' := by
  obtain ⟨c, u', rfl⟩ := List.exists_cons_of_ne_nil h.ne_nil
  obtain ⟨body, rest, -, -, hrest⟩ := h.more
  exact ⟨u', by rw [(List.cons.inj hrest).1]⟩

theorem IsBegun.of_prefix (h : IsBegun u) {x : List Char} (hx : x <+: u) (hne : x ≠ []) :
    IsBegun x := by
  obtain ⟨-, body, rest, hbody, hrest, hu⟩ := h
  obtain ⟨y, rfl⟩ := hx
  refine ⟨hne, body, y ++ rest, hbody, fun h => hrest (List.append_eq_nil_iff.1 h).2, ?_⟩
  rw [← List.append_assoc, hu]

theorem contactPlaceholder_body : ∀ field ∈ contactFields, ∃ body,
    (∀ c ∈ body, Text.isWord c = true ∨ c = '.') ∧ contactPlaceholder field = variablePlaceholder body := by
  intro field hfield
  refine ⟨("contact." ++ field).toList, ?_, rfl⟩
  have hall : contactFields.all (fun field => ("contact." ++ field).toList.all fun c =>
      Text.isWord c || c == '.') = true := by decide
  have hchars := List.all_eq_true.1 hall field hfield
  simpa using List.all_eq_true.1 hchars

/-- After a field has been filled in, the placeholders of fields still stand apart. -/
theorem Apart.fill (hvalue : '{' ∉ (contact.get f).toList) (h : Apart cs) :
    Apart ((contactPass contact f).fill cs) := by
  rintro a r field hfield hcs ⟨u, ⟨b, rfl⟩, hu⟩
  obtain ⟨body, hbody, hplaceholder⟩ := contactPlaceholder_body field hfield
  obtain ⟨u', rfl⟩ := hu.exists_eq
  have hm : '{' :: (u' ++ contactPlaceholder field) <:+: (contactPass contact f).fill cs :=
    ⟨b, r, by simp [hcs]⟩
  have hbefore : '{' :: (u' ++ contactPlaceholder field) <:+: cs := by
    refine infix_of_infix_fill hvalue h hm fun x hx hne => ?_
    obtain ⟨x', hx'⟩ := hx
    rcases List.append_eq_append_iff.1 hx' with ⟨y, hy, -⟩ | ⟨y, rfl, hy⟩
    · refine ⟨_, List.suffix_refl _, hu.of_prefix ?_ (List.cons_ne_nil _ _)⟩
      exact List.cons_prefix_cons.2 ⟨rfl, y, hy.symm⟩
    · by_cases hnil : y = []
      · exact ⟨_, by simp [hnil], hu⟩
      · refine EndsBegun.append ⟨y, List.suffix_refl y, ?_⟩ ('{' :: u')
        rw [hplaceholder] at hy
        refine isBegun_of_prefix hbody ⟨x', hy.symm⟩ hnil fun heq => hne ?_
        rw [heq, hplaceholder]
  obtain ⟨b, r, rfl⟩ := hbefore
  exact h (b ++ '{' :: u') r field hfield (by simp) ⟨_, List.suffix_append b _, hu⟩

theorem Mentions.of_fill (hvalue : '{' ∉ (contact.get f).toList) (hapart : Apart cs)
    (h : Mentions ((contactPass contact f).fill cs) name) : Mentions cs name := by
  refine ⟨h.ne_empty, h.word, infix_of_infix_fill hvalue hapart h.occurs fun x hx hne => ?_⟩
  refine ⟨'{' :: x, List.suffix_refl _, isBegun_of_prefix (fun c hc => .inl (h.word c hc)) ?_
    (List.cons_ne_nil _ _) fun heq => hne (List.cons.inj heq).2⟩
  exact List.cons_prefix_cons.2 ⟨rfl, hx⟩

/-- Fields without an opening brace bring in no placeholder of a variable, where those of fields
stand apart. -/
theorem mentions_of_fillContact (hvalue : ∀ field ∈ contactFields, '{' ∉ (contact.get field).toList)
    (hapart : Apart cs) (h : Mentions (fillContact contact cs) name) : Mentions cs name := by
  rw [fillContact_eq] at h
  generalize contactFields.attach = fields at h
  induction fields generalizing cs with
  | nil => exact h
  | cons f fields ih =>
    rw [List.map_cons, fillAll_cons] at h
    exact (ih (hapart.fill (hvalue f f.2)) h).of_fill (hvalue f f.2) hapart

/-- What customers say about themselves can bring in a variable that nobody has written: a template
ignores it exactly if its placeholder is not there once the fields of the contact have been filled in.
It is not if no field has an opening brace and no placeholder of a field stands behind one that has
been begun. -/
theorem variable_is_ignored_iff (hwritten : ¬ Mentions t.toList name) :
    (Ignores s t name ↔ ¬ Mentions (fillContact s.contact t.toList) name) ∧
    ((∀ field ∈ contactFields, '{' ∉ (s.contact.get field).toList) → Apart t.toList →
      Ignores s t name) :=
  ⟨ignores_iff, fun hvalue hapart =>
    ignores_iff.2 fun h => hwritten (mentions_of_fillContact hvalue hapart h)⟩

/-- Someone calls himself by a placeholder, and is told what is kept under it; with an ordinary name he
is not. -/
theorem variable_is_ignored_iff_name_is_placeholder :
    let t := "Hello \x7b\x7bcontact.name\x7d\x7d"
    let s := Session.start (.ofInt 0) "c" "\x7b\x7bpin\x7d\x7d"
    ¬ Mentions t.toList "pin" ∧ ¬ Ignores s t "pin" ∧
      s.fill t = "Hello \x7b\x7bpin\x7d\x7d" ∧
      ({ s with vars := [("pin", "1234")] } : Session).fill t = "Hello 1234" ∧
      Ignores (Session.start (.ofInt 0) "c" "Sara") t "pin" := by
  intro t s
  have hwritten : ¬ Mentions t.toList "pin" := fun h => absurd h.occurs (by decide)
  have hfilled : Mentions (fillContact s.contact t.toList) "pin" :=
    ⟨by decide, List.all_eq_true.1 rfl, by decide⟩
  have hapart : Apart t.toList := by
    -- The template has the two braces of one placeholder, and not a third one.
    have hcount : ∀ field ∈ contactFields, (contactPlaceholder field).count '{' = 2 := by decide
    have htotal : t.toList.count '{' = 2 := by decide
    rintro a r field hfield hcs ⟨u, hu, hbegun⟩
    rw [hcs, List.count_append, List.count_append, hcount field hfield] at htotal
    have hnone : '{' ∉ a := List.count_eq_zero.1 (by omega)
    obtain ⟨u', rfl⟩ := hbegun.exists_eq
    exact hnone (hu.subset List.mem_cons_self)
  exact ⟨hwritten, fun h => (variable_is_ignored_iff hwritten).1.1 h hfilled, by decide, by decide,
    (variable_is_ignored_iff hwritten).2 (by decide) hapart⟩

end ChatFlow.Template

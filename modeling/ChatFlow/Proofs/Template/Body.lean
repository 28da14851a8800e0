import ChatFlow.Proofs.Json.Grammar
import ChatFlow.Proofs.Json.Texts
import ChatFlow.Proofs.Template.Written

/-!
# Filling in a text that is JSON

If a template is JSON and its placeholders stand inside of texts, then a pass over it changes these
texts and nothing else: `Reads.fill` follows a derivation through a pass, `reads_fillAll` through all
of them. What a pass makes of a literal is said by `Name` and `Value`.
-/

namespace ChatFlow

open Json Json.Reader Template

namespace Template

variable {p : Pass} {ps : List Pass} {cs r b a : List Char} {k s : String} {c : Char}

/-! ### Passes over what is no text -/

/-- What a pass makes of a text. -/
def Pass.fillText (p : Pass) (s : String) : String := String.ofList (p.fill s.toList)

theorem Pass.fill_quoted (p : Pass) (b r : List Char) :
    p.fill ('"' :: (b ++ '"' :: r)) = '"' :: (p.fill b ++ '"' :: p.fill r) := by
  rw [p.fill_cons_of_ne (by decide), p.fill_append_cons (by decide)]

theorem opens_brace (h : ∀ c ∈ (skip cs).head?, c ≠ '{') : opens ('{' :: cs) = false := by
  refine Pass.opens_brace_cons fun c hc => ?_
  cases cs with
  | nil => cases hc
  | cons c' cs =>
    cases hc
    rintro rfl
    rw [skip_of_not_isBlank (by decide)] at h
    exact h '{' rfl rfl

theorem skip_fill (p : Pass) (h : opens (skip cs) = false) : skip (p.fill cs) = p.fill (skip cs) := by
  induction cs with
  | nil => rfl
  | cons c cs ih =>
    cases hc : isBlank c with
    | true =>
      have hne : c ≠ '{' := by rintro rfl; cases hc
      have hskip (cs : List Char) : skip (c :: cs) = skip cs := by
        rw [skip, List.dropWhile_cons_of_pos hc]; rfl
      rw [hskip] at h
      rw [p.fill_cons_of_ne hne, hskip, hskip, ih h]
    | false =>
      rw [skip_of_not_isBlank hc] at h
      rw [p.fill_cons h, skip_of_not_isBlank hc, skip_of_not_isBlank hc, p.fill_cons h]

theorem skip_fill_eq_cons (p : Pass) (hc : c ≠ '{') (h : skip cs = c :: r) :
    skip (p.fill cs) = c :: p.fill r := by
  have hopens : opens (skip cs) = false := by rw [h]; exact Pass.opens_cons_of_ne hc
  rw [skip_fill p hopens, h, p.fill_cons_of_ne hc]

theorem closed_fill (p : Pass) (h : Closed cs) : Closed (p.fill cs) := by
  cases hs : skip cs with
  | nil =>
    exact .of_skip_eq_nil (by rw [skip_fill p (by rw [hs]; rfl), hs]; rfl)
  | cons c r =>
    have hc := h c (by rw [hs]; rfl)
    have hne : c ≠ '{' := by rcases hc with rfl | rfl | rfl <;> decide
    exact .of_skip_eq_cons (skip_fill_eq_cons p hne hs) hc

end Template

namespace Json

variable {K V K' V' : List Char → String → Prop} {d : Nat} {cs r : List Char} {form : Form}

/-- A form with each of its texts changed. -/
def Form.mapTexts (f : String → String) : Form → Form
  | value v => value (v.mapTexts f)
  | items vs => items (mapItems f vs)
  | fields fs => fields (mapFields f fs)

theorem Form.mapTexts_self (form : Form) : (form.mapTexts fun s => s) = form := by
  cases form <;> simp [Form.mapTexts]

theorem Form.mapTexts_mapTexts (f g : String → String) (form : Form) :
    (form.mapTexts f).mapTexts g = form.mapTexts fun s => g (f s) := by
  cases form with
  | value v => simp only [Form.mapTexts, Json.mapTexts_mapTexts]
  | items vs => simp only [Form.mapTexts, mapItems_mapItems]
  | fields fs => simp only [Form.mapTexts, mapFields_mapFields]

namespace Reads

theorem head_fields {fs : List (String × Json)} (h : Reads K V d cs (.fields fs) r) :
    ∀ c ∈ cs.head?, c ≠ '{' := by
  cases h with
  | lastField => simp
  | field => simp

theorem not_opens (h : Reads K V d cs form r) : opens cs = false := by
  induction h with
  | nullWord => rfl
  | trueWord => rfl
  | falseWord => rfl
  | text => rfl
  | number numeric =>
    refine Pass.opens_cons_of_ne ?_
    rintro rfl
    exact absurd (numeric _ List.mem_cons_self) (by decide)
  | emptyArr => rfl
  | arr => rfl
  -- A brace that opens an object opens no placeholder: a name or the other brace comes next.
  | emptyObj close => exact opens_brace (by rw [close]; simp)
  | obj h => exact opens_brace h.head_fields
  | lastItem _ _ ih => exact ih
  | item _ _ _ ih => exact ih
  | lastField => rfl
  | field => rfl

/-- A derivation goes through a pass, if names stay as they are and texts are filled in. -/
theorem fill (p : Pass) (hK : ∀ b k, K b k → K' (p.fill b) k)
    (hV : ∀ b s, V b s → V' (p.fill b) (p.fillText s)) (h : Reads K V d cs form r) :
    Reads K' V' d (p.fill cs) (form.mapTexts p.fillText) (p.fill r) := by
  induction h with
  | @nullWord d r =>
    rw [show 'n' :: 'u' :: 'l' :: 'l' :: r = ['n', 'u', 'l', 'l'] ++ r from rfl,
      p.fill_append_of_ne (by simp)]
    exact .nullWord
  | @trueWord d r =>
    rw [show 't' :: 'r' :: 'u' :: 'e' :: r = ['t', 'r', 'u', 'e'] ++ r from rfl,
      p.fill_append_of_ne (by simp)]
    exact .trueWord
  | @falseWord d r =>
    rw [show 'f' :: 'a' :: 'l' :: 's' :: 'e' :: r = ['f', 'a', 'l', 's', 'e'] ++ r from rfl,
      p.fill_append_of_ne (by simp)]
    exact .falseWord
  | @text d b r s h =>
    rw [p.fill_quoted]
    exact .text (hV b s h)
  | @number d c part r v numeric reads closed =>
    have hne : ∀ c' ∈ c :: part, c' ≠ '{' := by
      rintro c' hc' rfl
      exact absurd (numeric _ hc') (by decide)
    have hv : v.mapTexts p.fillText = v := mapTexts_of_number _ (reads r closed.stops)
    rw [p.fill_append_of_ne hne, Form.mapTexts, hv]
    exact .number numeric reads (closed_fill p closed)
  | emptyArr close =>
    rw [p.fill_cons_of_ne (by decide)]
    exact .emptyArr (skip_fill_eq_cons p (by decide) close)
  | arr h ih =>
    rw [← skip_fill p h.not_opens] at ih
    rw [p.fill_cons_of_ne (by decide)]
    exact .arr ih
  | emptyObj close =>
    rw [p.fill_cons (opens_brace (by rw [close]; simp))]
    exact .emptyObj (skip_fill_eq_cons p (by decide) close)
  | @obj d cs r fs h ih =>
    rw [← skip_fill p h.not_opens] at ih
    rw [p.fill_cons (opens_brace h.head_fields), Form.mapTexts, Json.mapTexts, mapFields_ofEntries]
    exact .obj ih
  | lastItem h close ih => exact .lastItem ih (skip_fill_eq_cons p (by decide) close)
  | item h comma more ih ih' =>
    rw [← skip_fill p more.not_opens] at ih'
    exact .item ih (skip_fill_eq_cons p (by decide) comma) ih'
  | lastField key colon h close ih =>
    rw [← skip_fill p h.not_opens] at ih
    rw [p.fill_quoted]
    exact .lastField (hK _ _ key) (skip_fill_eq_cons p (by decide) colon) ih
      (skip_fill_eq_cons p (by decide) close)
  | field key colon h comma more ih ih' =>
    rw [← skip_fill p h.not_opens] at ih
    rw [← skip_fill p more.not_opens] at ih'
    rw [p.fill_quoted]
    exact .field (hK _ _ key) (skip_fill_eq_cons p (by decide) colon) ih
      (skip_fill_eq_cons p (by decide) comma) ih'

end Reads

end Json

namespace Template

variable {p : Pass} {ps : List Pass} {t b cs r : List Char} {k s : String} {v : Json} {d : Nat}
  {form : Form}

/-! ### All passes -/

/-- The values that come in place of placeholders in all the passes. -/
def valuesAll : List Pass → List Char → List (List Char)
  | [], _ => []
  | p :: ps, cs => p.values cs ++ valuesAll ps (p.fill cs)

def textAll (ps : List Pass) (s : String) : String := String.ofList (fillAll ps s.toList)

/-- What stands between two quotes is filled in with values of the whole text. -/
theorem mem_valuesAll (ps : List Pass) {a b r new : List Char} (h : new ∈ valuesAll ps b) :
    new ∈ valuesAll ps (a ++ '"' :: (b ++ '"' :: r)) := by
  induction ps generalizing a b r with
  | nil => cases h
  | cons p ps ih =>
    have hquote : isSlot '"' = false := by decide
    rw [valuesAll, p.values_append_cons hquote, p.values_append_cons hquote,
      p.fill_append_cons hquote, p.fill_append_cons hquote]
    rcases List.mem_append.1 h with h | h
    · simp [h]
    · exact List.mem_append_right _ (ih h)

/-- A literal that names a field and has no placeholders. -/
structure Name (ps : List Pass) (b : List Char) (k : String) : Prop where
  spells : Spells b k
  fixed : ∀ p ∈ ps, p.fill b = b

/-- A literal that is filled in with values that stand for themselves, or not at all. -/
inductive Value (ps : List Pass) (b : List Char) (s : String) : Prop
  | filled (h : Written b s.toList) (values : ∀ new ∈ valuesAll ps b, Plain new)
  | fixed (h : Spells b s) (raw : hasOpening b = false) (read : hasOpening s.toList = false)

theorem fill_of_not_hasOpening (p : Pass) (h : hasOpening cs = false) : p.fill cs = cs := by
  refine Pass.fill_eq_self fun t ht => Pass.find_eq_none ?_
  simp only [hasOpening, List.any_eq_false, List.mem_tails] at h
  exact eq_false_of_ne_true (h t ht)

theorem Name.fill (h : Name (p :: ps) b k) : Name ps (p.fill b) k := by
  rw [h.fixed p List.mem_cons_self]
  exact ⟨h.spells, fun p' hp' => h.fixed p' (List.mem_cons_of_mem p hp')⟩

theorem Value.fill (h : Value (p :: ps) b s) : Value ps (p.fill b) (p.fillText s) := by
  cases h with
  | filled h values =>
    obtain ⟨hfirst, hrest⟩ := List.forall_mem_append.1 values
    refine .filled ?_ hrest
    rw [Pass.fillText, String.toList_ofList]
    exact h.fill p hfirst
  | fixed h raw read =>
    rw [Pass.fillText, fill_of_not_hasOpening p raw, fill_of_not_hasOpening p read,
      String.ofList_toList]
    exact .fixed h raw read

theorem Value.spells (h : Value ps b s) : Spells b s := by
  cases h with
  | filled h => simpa using h.spells
  | fixed h => exact h

/-- A derivation goes through all the passes. -/
theorem reads_fillAll (h : Reads (Name ps) (Value ps) d (skip cs) form r) (hr : skip r = []) :
    ∃ r', Reads (Name []) (Value []) d (skip (fillAll ps cs)) (form.mapTexts (textAll ps)) r' ∧
      skip r' = [] := by
  induction ps generalizing cs form r with
  | nil =>
    have hself : textAll [] = fun s => s := funext fun s => String.ofList_toList
    rw [hself, Form.mapTexts_self]
    exact ⟨r, h, hr⟩
  | cons p ps ih =>
    have hfill : Reads (Name ps) (Value ps) d (p.fill (skip cs)) (form.mapTexts p.fillText)
        (p.fill r) := h.fill p (fun b k => Name.fill) fun b s => Value.fill
    rw [← skip_fill p h.not_opens] at hfill
    obtain ⟨r', hreads, hr'⟩ := ih hfill (by rw [skip_fill p (by rw [hr]; rfl), hr]; rfl)
    refine ⟨r', ?_, hr'⟩
    have hcons : textAll (p :: ps) = fun s => textAll ps (p.fillText s) := by
      funext s
      rw [textAll, textAll, Pass.fillText, String.toList_ofList, fillAll_cons]
    rwa [Form.mapTexts_mapTexts, ← hcons, ← fillAll_cons] at hreads

/-! ### Templates whose placeholders stand inside of texts -/

/-- Whether a text starts with a placeholder. -/
def isPlaceholder (cs : List Char) : Bool :=
  contactFields.any (fun field => (contactPlaceholder field).isPrefixOf cs) ||
    (placeholder? cs).isSome

def holdsPlaceholder (cs : List Char) : Bool := cs.tails.any isPlaceholder

/-- A text in which two braces stand together has settled escapes. -/
def isSettled (body : List Char) : Bool :=
  (pieces? (body ++ ['"'])).any fun p =>
    settled false p.1 || (!hasOpening body && !hasOpening (ofPieces p.1))

/-- No name of a field holds a placeholder, and each other literal can be filled in as it is
written. -/
structure InTexts (t : String) : Prop where
  names : ∀ l ∈ literals t.toList, l.isKey = true → holdsPlaceholder l.body = false
  texts : ∀ l ∈ literals t.toList, l.isKey = false → isSettled l.body = true

theorem find_eq_none_of_not_isPlaceholder {session : Session} (hp : p ∈ passes session)
    (h : isPlaceholder cs = false) : p.find cs = none := by
  simp only [isPlaceholder, Bool.or_eq_false_iff, List.any_eq_false] at h
  rw [passes, List.mem_append, List.mem_map, List.mem_singleton] at hp
  rcases hp with ⟨⟨field, hfield⟩, -, rfl⟩ | rfl
  · exact if_neg (h.1 field hfield)
  · have hnone : placeholder? cs = none := by simpa using h.2
    show (placeholder? cs).map _ = none
    rw [hnone]; rfl

theorem name_of_not_holdsPlaceholder {session : Session} (hb : holdsPlaceholder b = false)
    (h : Spells b k) : Name (passes session) b k := by
  refine ⟨h, fun p hp => Pass.fill_eq_self fun t ht => find_eq_none_of_not_isPlaceholder hp ?_⟩
  simp only [holdsPlaceholder, List.any_eq_false, List.mem_tails] at hb
  exact eq_false_of_ne_true (hb t ht)

theorem value_of_isSettled (hb : isSettled b = true) (h : Spells b s)
    (hv : ∀ new ∈ valuesAll ps b, Plain new) : Value ps b s := by
  obtain ⟨⟨qs, r⟩, hqs, hb⟩ := (Option.any_eq_true _ _).1 hb
  have hread := h []
  rw [text, hqs] at hread
  cases hread
  rcases Bool.or_eq_true_iff.1 hb with hb | hb
  · obtain ⟨b', hbody, hgo⟩ := exists_goesOn hqs hb
    obtain rfl : b = b' := List.append_cancel_right hbody
    exact .filled (by rw [String.toList_ofList]; exact hgo.written) hv
  · simp only [Bool.and_eq_true, Bool.not_eq_true'] at hb
    exact .fixed h hb.1 (by rw [String.toList_ofList]; exact hb.2)

end Template

/-- What a session says in place of the placeholders of a template. -/
def Session.inserted (session : Session) (t : String) : List (List Char) :=
  valuesAll (passes session) t.toList

namespace Template

variable {session : Session} {t : String} {v : Json}

theorem admits (ht : InTexts t) (hv : ∀ new ∈ session.inserted t, Plain new) :
    Admits (Name (passes session)) (Value (passes session)) t.toList := by
  intro l hl s hs
  obtain ⟨a, r, hsplit⟩ := exists_eq_of_mem_literals hl
  have hbody : ∀ new ∈ valuesAll (passes session) l.body, Plain new := by
    intro new hnew
    refine hv new ?_
    rw [Session.inserted, hsplit]
    exact mem_valuesAll _ hnew
  cases hkey : l.isKey with
  | true => exact name_of_not_holdsPlaceholder (ht.names l hl hkey) hs
  | false => exact value_of_isSettled (ht.texts l hl hkey) hs hbody

/-- Filling in a template that is JSON, and reading what comes out, gives the value of the template
with its texts filled in. -/
theorem parse_fill (ht : InTexts t) (hv : ∀ new ∈ session.inserted t, Plain new)
    (h : Json.parse t = some v) : Json.parse (session.fill t) = some (v.mapTexts session.fill) := by
  obtain ⟨r, hreads, hr⟩ :=
    reads_of_parse (fun b k => Name.spells) (fun b s => Value.spells) (admits ht hv) h
  obtain ⟨r', hreads', hr'⟩ := reads_fillAll hreads hr
  have hfill : session.fill = textAll (passes session) := by
    funext s
    rw [textAll, ← toList_fill, String.ofList_toList]
  rw [← toList_fill] at hreads'
  rw [hfill]
  rw [hfill] at hreads'
  exact hreads'.parse_eq (fun b k => Name.spells) (fun b s => Value.spells) hr'

end Template

end ChatFlow

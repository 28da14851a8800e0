/-!
# Complaints about data

An `Issue` says what is wrong with one place of a value. `Checked` collects the issues of all the
parts of a value: a faulty part hides no fault of another one (`Checked.issues_seq`).
-/

namespace ChatFlow

namespace Schema

inductive Segment where
  | field (name : String)
  | item (index : Nat)
  deriving DecidableEq, Repr

inductive Complaint where
  | missing
  | notText
  /-- A text that has to be read further cannot be encoded. -/
  | notEncodable
  | notPath
  | notList
  | notChildren
  | notObject
  | notRecord
  /-- The body of a request is expected to be an object with given fields. -/
  | notAttributes
  | unreadableBody
  | badId
  | notOneOf
  | notBool
  | unreadableBool
  | notInt
  | unreadableInt
  | fractionalInt
  | oversizedInt
  | notFinite
  | notFloat
  | unreadableFloat
  | notGreater
  | tooSmall
  deriving DecidableEq, Repr

structure Issue where
  path : List Segment
  complaint : Complaint
  deriving DecidableEq, Repr

/-- The issue of a part, seen from the whole. -/
def Issue.under (s : Segment) (i : Issue) : Issue := { i with path := s :: i.path }

/-- The outcome of checking a value: what it means, or all that is wrong with it. -/
inductive Checked (α : Type) where
  | ok (a : α)
  | bad (first : Issue) (others : List Issue)

namespace Checked

variable {α β : Type}

def issues : Checked α → List Issue
  | ok _ => []
  | bad i is => i :: is

def complain (c : Complaint) : Checked α := bad ⟨[], c⟩ []

def map (f : α → β) : Checked α → Checked β
  | ok a => ok (f a)
  | bad i is => bad i is

/-- Check two parts: the issues of the first stand before those of the second. -/
def seq : Checked (α → β) → Checked α → Checked β
  | ok f, x => map f x
  | bad i is, x => bad i (is ++ x.issues)

def bind : Checked α → (α → Checked β) → Checked β
  | ok a, f => f a
  | bad i is, _ => bad i is

def under (s : Segment) : Checked α → Checked α
  | ok a => ok a
  | bad i is => bad (i.under s) (is.map (·.under s))

instance : Applicative Checked where
  pure := ok
  map := map
  seq f x := seq f (x ())

@[simp] theorem issues_ok (a : α) : (ok a).issues = [] := rfl

@[simp] theorem issues_map (f : α → β) (x : Checked α) : (f <$> x).issues = x.issues := by
  cases x <;> rfl

@[simp] theorem issues_seq (f : Checked (α → β)) (x : Checked α) :
    (f <*> x).issues = f.issues ++ x.issues := by
  cases f with
  | ok f => exact issues_map f x
  | bad i is => rfl

theorem ok_of_map {f : α → β} {x : Checked α} {b : β} (h : f <$> x = .ok b) :
    ∃ a, x = .ok a ∧ f a = b := by
  cases x with
  | ok a => cases h; exact ⟨a, rfl, rfl⟩
  | bad i is => cases h

theorem ok_of_seq {f : Checked (α → β)} {x : Checked α} {b : β} (h : f <*> x = .ok b) :
    ∃ g a, f = .ok g ∧ x = .ok a ∧ g a = b := by
  cases f with
  | ok g =>
    obtain ⟨a, ha, hb⟩ := ok_of_map (f := g) (x := x) h
    exact ⟨g, a, rfl, ha, hb⟩
  | bad i is => cases h

theorem seq_eq_ok_iff {f : Checked (α → β)} {x : Checked α} {b : β} :
    f <*> x = .ok b ↔ ∃ g a, f = .ok g ∧ x = .ok a ∧ g a = b :=
  ⟨ok_of_seq, fun ⟨_, _, hf, hx, hb⟩ => hb ▸ hf ▸ hx ▸ rfl⟩

theorem under_eq_ok_iff {s : Segment} {x : Checked α} {a : α} : x.under s = .ok a ↔ x = .ok a := by
  cases x with
  | ok b => rfl
  | bad i is => constructor <;> intro h <;> cases h

theorem ok_of_under {s : Segment} {x : Checked α} {a : α} (h : x.under s = .ok a) : x = .ok a :=
  under_eq_ok_iff.1 h

@[simp] theorem issues_under (s : Segment) (x : Checked α) :
    (x.under s).issues = x.issues.map (·.under s) := by
  cases x <;> simp [under, issues]

end Checked

end Schema

end ChatFlow

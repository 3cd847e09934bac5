import RuleLexer.Proofs.Outcome
import RuleLexer.Setting.Decode

/-!
# Settings that read alike

A scalar is wanted, and a table stands there: the failure to read it does not say what is in the
table, only that it is one, and which file it comes from. So two tables that come from no file are
*alike* (`Setting.Like`), whatever their entries, and so are the failures to read them
(`SettingError.Like`); failures that are alike say the same (`SettingError.Like.message_eq`).

A way of reading *respects* a relation if what is related is read alike (`Setting.Respects`).
Scalars are read so for `Like`, and records for `LikeAt`, which relates tables whose entries under
some names are alike: a field adds only where it stands (`Setting.Field.required_alike`).
-/

namespace RuleLexer

variable {α : Type}

namespace Setting

/-- A table that comes from no file. -/
def IsTable (s : Setting) : Prop := ∃ entries, s = .table entries none

/-- **Settings are alike**: they are the same, or both are tables that come from no file. -/
inductive Like : Setting → Setting → Prop
  /-- They are the same. -/
  | refl (s : Setting) : Like s s
  /-- Both are tables. -/
  | table (entries entries' : List (String × Setting)) :
    Like (.table entries none) (.table entries' none)

theorem IsTable.like {s s' : Setting} (h : s.IsTable) (h' : s'.IsTable) : s.Like s' := by
  obtain ⟨entries, rfl⟩ := h
  obtain ⟨entries', rfl⟩ := h'
  exact .table entries entries'

/-- **Tables are alike at some names**: what stands under them is missing in both, or alike. -/
structure LikeAt (names : List String) (s s' : Setting) : Prop where
  /-- The first is a table. -/
  left : s.IsTable
  /-- The second is a table. -/
  right : s'.IsTable
  /-- The entries under the names are alike. -/
  entries : ∀ name ∈ names, Option.Rel Like (s.get? name) (s'.get? name)

/-- What is related to itself, if it is there at all. -/
theorem rel_refl {R : Setting → Setting → Prop} {o : Option Setting} (h : ∀ s ∈ o, R s s) :
    Option.Rel R o o := by
  cases o with
  | none => exact .none
  | some s => exact .some (h s rfl)

theorem IsTable.likeAt_refl {s : Setting} (h : s.IsTable) (names : List String) :
    LikeAt names s s :=
  ⟨h, h, fun _ _ => rel_refl fun s _ => Like.refl s⟩

end Setting

namespace SettingError

/-- **Failures are alike** if they differ at most in what was found where a scalar is wanted, and
that is alike. -/
inductive Like : SettingError → SettingError → Prop
  /-- They are the same. -/
  | refl (e : SettingError) : Like e e
  /-- What was found is alike. -/
  | scalar {found found' : Setting} (h : found.Like found') (wanted : WantedScalar)
      (path : String) : Like (.scalar found wanted path) (.scalar found' wanted path)

namespace Like

variable {e e' : SettingError}

/-- **Failures that are alike say the same.** -/
theorem message_eq (h : Like e e') : e.message = e'.message := by
  cases h with
  | refl => rfl
  | scalar h wanted path => cases h <;> rfl

theorem underKey (h : Like e e') (key : String) : Like (e.underKey key) (e'.underKey key) := by
  cases h with
  | refl => exact .refl _
  | scalar h wanted path => exact .scalar h wanted _

end Like

end SettingError

namespace Setting

/-! ### What is read alike -/

/-- **A way of reading respects a relation** if it reads alike what is related. -/
def Respects (R : Setting → Setting → Prop) (read : Read α) : Prop :=
  ∀ s s', R s s' → Alike Eq SettingError.Like (read s) (read s')

variable {R : Setting → Setting → Prop} {read : Read α} {names : List String}

theorem respects_eq (read : Read α) : Respects Eq read := by
  rintro s _ rfl
  exact Alike.refl .refl (read s)

/-- A way of reading that refuses all tables as scalars respects alikeness. -/
theorem respects_like {wanted : WantedScalar}
    (refuses : ∀ entries origin, read (.table entries origin) =
      refuse (.table entries origin) wanted) : Respects Like read := by
  intro s s' h
  cases h with
  | refl => exact Alike.refl .refl (read s)
  | table entries entries' =>
    rw [refuses, refuses]
    exact .error (.scalar (.table entries entries') wanted "")

theorem string_respects : Respects Like string := respects_like fun _ _ => rfl

theorem count_respects : Respects Like count := respects_like fun _ _ => rfl

/-- A table is not nothing. -/
theorem nullable_respects (h : Respects (LikeAt names) read) :
    Respects (LikeAt names) (nullable read) := by
  intro s s' hlike
  have hread := (h s s' hlike).map fun a b => congrArg some
  obtain ⟨entries, rfl⟩ := hlike.left
  obtain ⟨entries', rfl⟩ := hlike.right
  exact hread

namespace Field

variable {o o' : Option Setting}

/-- **A field that must be there** is read alike if what stands there is. -/
theorem required_alike (h : Respects R read) (hrel : Option.Rel R o o') (kind : RecordKind)
    (name : String) :
    Alike Eq SettingError.Like ((⟨kind, .key name, o⟩ : Field).required read)
      ((⟨kind, .key name, o'⟩ : Field).required read) := by
  cases hrel with
  | none => exact .error (.refl _)
  | some hs => exact (h _ _ hs).mapError fun _ _ he => he.underKey name

/-- **A field with a value to take if it is missing** is read alike if what stands there is. -/
theorem withDefault_alike (h : Respects R read) (hrel : Option.Rel R o o') (kind : RecordKind)
    (name : String) (default : α) :
    Alike Eq SettingError.Like ((⟨kind, .key name, o⟩ : Field).withDefault default read)
      ((⟨kind, .key name, o'⟩ : Field).withDefault default read) := by
  cases hrel with
  | none => exact .ok rfl
  | some hs => exact (h _ _ hs).mapError fun _ _ he => he.underKey name

end Field

end Setting

end RuleLexer

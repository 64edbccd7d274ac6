import Maco.Base.Map

/-!
# Exclusive holdings

A table of holdings is exclusive when no two of its entries clash. Growing the table keeps it
exclusive when the new entry clashes with none that stays, and shrinking it always does; an entry
whose claim on the resource does not grow may be rewritten in place.
-/

namespace Maco.Base

variable {κ β : Type} [LinearOrder κ]

/-- No two entries of the table clash. -/
def Exclusive (clash : κ → β → κ → β → Prop) (m : BTreeMap κ β) : Prop :=
  ∀ a x b y, m[a]? = some x → m[b]? = some y → a ≠ b → ¬ clash a x b y

namespace Exclusive

variable {clash : κ → β → κ → β → Prop} {m n : BTreeMap κ β}

theorem empty : Exclusive clash (∅ : BTreeMap κ β) := by
  intro a x b y first
  rw [BTreeMap.get_empty] at first
  cases first

section

variable (exclusive : Exclusive clash m)

include exclusive

theorem mono (fewer : ∀ (k : κ) v, n[k]? = some v → m[k]? = some v) : Exclusive clash n :=
  fun a x b y first second => exclusive a x b y (fewer a x first) (fewer b y second)

theorem erase (k : κ) : Exclusive clash (m.erase k) := by
  exact exclusive.mono fun a v found => (BTreeMap.get_erase_some found).2

theorem filter (keep : κ → β → Bool) : Exclusive clash (m.filter keep) := by
  exact exclusive.mono fun a v found => (BTreeMap.get_filter_some found).1

/-- An entry that clashes with none of the others may be added. -/
theorem insert {k : κ} {v : β} (symmetric : ∀ a x b y, clash a x b y → clash b y a x)
    (free : ∀ b y, m[b]? = some y → k ≠ b → ¬ clash k v b y) : Exclusive clash (m.insert k v) := by
  intro a x b y first second different
  rw [BTreeMap.get_insert] at first second
  split at first
  · rename_i here
    subst here
    rw [if_neg different] at second
    cases first
    exact free b y second different
  · split at second
    · rename_i away here
      subst here
      cases second
      exact fun conflict => free a x first (Ne.symm different) (symmetric _ _ _ _ conflict)
    · exact exclusive a x b y first second different

/-- An entry may be rewritten when the new value clashes with nothing the old one did not. -/
theorem rewrite {k : κ} {v w : β} (present : m[k]? = some v)
    (symmetric : ∀ a x b y, clash a x b y → clash b y a x)
    (narrower : ∀ b y, clash k w b y → clash k v b y) : Exclusive clash (m.insert k w) :=
  exclusive.insert symmetric fun b y found different conflict =>
    exclusive k v b y present found different (narrower b y conflict)

end

end Exclusive

end Maco.Base

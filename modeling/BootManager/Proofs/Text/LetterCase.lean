import BootManager.Text.Ascii
import BootManager.Text.Blank

/-!
# The case of letters

Only ASCII characters have a case, so what is said of the case of a character has to be looked at
for these alone.
-/

namespace BootManager.Text

/-- A property holds of all characters if it holds of those in ASCII and of those without a case. -/
theorem letterCase_cases {motive : Char → Prop} (ascii : ∀ n < 128, motive (Char.ofNat n))
    (caseless : ∀ c : Char, c.toUpper = c → c.toLower = c → motive c) (c : Char) : motive c := by
  by_cases small : c.toNat < 128
  · have own := ascii c.toNat small
    rwa [Char.ofNat_toNat] at own
  · have past (last : Char) (inside : last.toNat < 128) : ¬c.val ≤ last.val := fun le =>
      small (Nat.lt_of_le_of_lt le inside)
    exact caseless c (dif_neg fun letter => past 'z' (by decide) letter.2)
      (dif_neg fun letter => past 'Z' (by decide) letter.2)

theorem toLower_eq_dash_iff {c : Char} : c.toLower = '-' ↔ c = '-' :=
  letterCase_cases (motive := fun c => c.toLower = '-' ↔ c = '-') (by decide +kernel)
    (fun _ _ down => by rw [down]) c

theorem isBlank_toLower (c : Char) : isBlank c.toLower = isBlank c :=
  letterCase_cases (by decide +kernel) (fun _ _ down => congrArg isBlank down) c

theorem lower_upper (s : String) : lower (upper s) = lower s := by
  have same : Char.toLower ∘ Char.toUpper = Char.toLower :=
    funext (letterCase_cases (by decide +kernel) fun _ up _ => congrArg Char.toLower up)
  rw [lower, upper, String.toList_ofList, List.map_map, same, lower]

end BootManager.Text

import BootManager.Proofs.Volume.BufferBytes
import BootManager.Volume.Mbr

/-!
# The bytes of a partition table

The entries of a table stand one after the other, sixteen bytes each, from byte 446 of a sector on.
`MbrTable.ofSector?_eq_some_iff` says that a table is read exactly from the sectors it stands in.
-/

namespace BootManager

namespace MbrEntry

/-- An entry stands at a place of a sector. -/
structure StandsAt (entry : MbrEntry) (sector : Array UInt8) (place : Nat) : Prop where
  flags : sector[place]? = some entry.flags
  first : Buffer.StandsAt sector (place + 1)
    [entry.first.head, entry.first.sector, entry.first.cylinder]
  partType : sector[place + 4]? = some entry.partType
  last : Buffer.StandsAt sector (place + 5)
    [entry.last.head, entry.last.sector, entry.last.cylinder]
  startLba : Buffer.WordStandsAt sector (place + 8) entry.startLba
  size : Buffer.WordStandsAt sector (place + 12) entry.size

variable {sector : Array UInt8} {place : Nat} {entry : MbrEntry}

/-- The sixteen bytes of an entry, by what they are. -/
theorem standsAt_sixteen {flags h s c partType h' s' c' l₀ l₁ l₂ l₃ n₀ n₁ n₂ n₃ : UInt8} :
    Buffer.StandsAt sector place
        [flags, h, s, c, partType, h', s', c', l₀, l₁, l₂, l₃, n₀, n₁, n₂, n₃] ↔
      sector[place]? = some flags ∧ Buffer.StandsAt sector (place + 1) [h, s, c] ∧
        sector[place + 4]? = some partType ∧ Buffer.StandsAt sector (place + 5) [h', s', c'] ∧
          Buffer.StandsAt sector (place + 8) [l₀, l₁, l₂, l₃] ∧
            Buffer.StandsAt sector (place + 12) [n₀, n₁, n₂, n₃] := by
  simp only [Buffer.standsAt_cons, Buffer.standsAt_nil, and_assoc, and_true, Nat.add_assoc,
    Nat.reduceAdd]

theorem ofBuffer?_eq_some_iff :
    ofBuffer? sector place = some entry ↔ entry.StandsAt sector place := by
  unfold ofBuffer?
  constructor
  · intro found
    split at found
    · rename_i l₀ l₁ l₂ l₃ n₀ n₁ n₂ n₃ slice
      have stands := ((Buffer.slice?_eq_some_iff (List.cons_ne_nil _ _)).mp slice).2
      obtain ⟨flags, first, partType, last, startLba, size⟩ := standsAt_sixteen.mp stands
      obtain rfl := Option.some.inj found
      exact ⟨flags, first, partType, last,
        Buffer.wordStandsAt_iff.mpr ⟨l₀, l₁, l₂, l₃, startLba, rfl⟩,
        Buffer.wordStandsAt_iff.mpr ⟨n₀, n₁, n₂, n₃, size, rfl⟩⟩
    · cases found
  · rintro ⟨flags, first, partType, last, startLba, size⟩
    obtain ⟨l₀, l₁, l₂, l₃, startLba, first_eq⟩ := Buffer.wordStandsAt_iff.mp startLba
    obtain ⟨n₀, n₁, n₂, n₃, size, size_eq⟩ := Buffer.wordStandsAt_iff.mp size
    have stands := standsAt_sixteen.mpr ⟨flags, first, partType, last, startLba, size⟩
    have slice : Buffer.slice? sector place 16 = some _ :=
      (Buffer.slice?_eq_some_iff (List.cons_ne_nil _ _)).mpr ⟨rfl, stands⟩
    rw [slice]
    dsimp only
    rw [← first_eq, ← size_eq]

/-- A sector that is long enough holds an entry at each of its places. -/
theorem exists_ofBuffer? (fits : place + 16 ≤ sector.size) :
    ∃ entry, ofBuffer? sector place = some entry := by
  have size : (sector.extract place (place + 16)).toList.length = 16 := by
    simp
    omega
  unfold ofBuffer? Buffer.slice?
  rw [if_pos fits]
  generalize (sector.extract place (place + 16)).toList = bytes at size
  match bytes, size with
  | [_, _, _, _, _, _, _, _, _, _, _, _, _, _, _, _], _ => exact ⟨_, rfl⟩

end MbrEntry

namespace MbrTable

variable {sector : Array UInt8} {table : MbrTable}

theorem ofSector?_eq_some_iff : ofSector? sector = some table ↔
    ∀ k (lt : k < 4), table[k].StandsAt sector (446 + 16 * k) := by
  simp only [← MbrEntry.ofBuffer?_eq_some_iff]
  unfold ofSector? offset
  constructor
  · intro found
    obtain ⟨a, first, found⟩ := Option.bind_eq_some_iff.mp found
    obtain ⟨b, second, found⟩ := Option.bind_eq_some_iff.mp found
    obtain ⟨c, third, found⟩ := Option.bind_eq_some_iff.mp found
    obtain ⟨d, fourth, found⟩ := Option.bind_eq_some_iff.mp found
    obtain rfl := Option.some.inj found
    intro k lt
    match k with
    | 0 => exact first
    | 1 => exact second
    | 2 => exact third
    | 3 => exact fourth
  · intro entries
    have whole : #v[table[0], table[1], table[2], table[3]] = table := by
      ext k lt : 1
      match k with
      | 0 | 1 | 2 | 3 => rfl
    rw [entries 0 (by decide), entries 1 (by decide), entries 2 (by decide), entries 3 (by decide)]
    exact congrArg some whole

theorem exists_ofSector? (long : 512 ≤ sector.size) : ∃ table, ofSector? sector = some table := by
  have entry (place : Nat) (fits : place + 16 ≤ 512) :
      ∃ entry, MbrEntry.ofBuffer? sector place = some entry :=
    MbrEntry.exists_ofBuffer? (Nat.le_trans fits long)
  obtain ⟨a, first⟩ := entry offset (by decide)
  obtain ⟨b, second⟩ := entry (offset + 16) (by decide)
  obtain ⟨c, third⟩ := entry (offset + 32) (by decide)
  obtain ⟨d, fourth⟩ := entry (offset + 48) (by decide)
  exact ⟨#v[a, b, c, d], by rw [ofSector?, first, second, third, fourth]; rfl⟩

end MbrTable

end BootManager

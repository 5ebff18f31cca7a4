import CrashCapture.Image.Symbol
import CrashCapture.Proofs.Image.Segments

/-! The search for the symbol of an address. Whatever the tables of an image hold, the search
answers with a symbol that the address can belong to.
-/

namespace CrashCapture.Image

open Log (Noted)

/-- A candidate stands at or below the address. -/
theorem SymbolEntry.value_le_of_isCandidate {entry : SymbolEntry} {address : UInt64}
    (candidate : entry.isCandidate address = true)
    : entry.value ≤ address := by
  simp only [isCandidate, Bool.and_eq_true, decide_eq_true_eq] at candidate
  exact candidate.2

/-- A step of the search keeps candidates only. -/
theorem closer_isCandidate {address : UInt64} {best : Option SymbolEntry}
    {entry kept : SymbolEntry}
    (candidate : ∀ found, best = some found → found.isCandidate address = true)
    (keeps : closer address best entry = some kept)
    : kept.isCandidate address = true := by
  unfold closer at keeps
  split at keeps
  case isTrue fits =>
      cases best with
      | none =>
          cases keeps
          exact fits
      | some found =>
          simp only at keeps
          split at keeps
          · cases keeps
            exact fits
          · cases keeps
            exact candidate _ rfl
  case isFalse => exact candidate kept keeps

theorem foldl_closer_isCandidate {address : UInt64} {entries : List SymbolEntry}
    {best : Option SymbolEntry} {found : SymbolEntry}
    (candidate : ∀ kept, best = some kept → kept.isCandidate address = true)
    (closest : entries.foldl (closer address) best = some found)
    : found.isCandidate address = true := by
  induction entries generalizing best with
  | nil => exact candidate found closest
  | cons entry rest ih =>
      rw [List.foldl_cons] at closest
      exact ih (fun kept keeps => closer_isCandidate candidate keeps) closest

theorem SymbolTable.findSymbol?_value_le {memory : Memory} {width : Width}
    {table : SymbolTable} {address : UInt64} {found : SymbolMatch}
    (matched : (table.findSymbol? memory width address).value = some found)
    : found.value ≤ address := by
  simp only [findSymbol?, Noted.value_bind, Noted.value_pure, Option.map_eq_some_iff]
    at matched
  obtain ⟨entry, closest, rfl⟩ := matched
  have candidate : entry.isCandidate address = true :=
    foldl_closer_isCandidate (fun kept keeps => by cases keeps) closest
  exact SymbolEntry.value_le_of_isCandidate candidate

/-- The symbol found for an address stands at or below it. -/
theorem findSymbol?_value_le {memory : Memory} {header : Header} {base address : UInt64}
    {found : SymbolMatch}
    (matched : (findSymbol? memory header base address).value = some found)
    : found.value ≤ address := by
  rw [findSymbol?, Commands.findSome?_value] at matched
  obtain ⟨command, _, answer⟩ := List.exists_of_findSome?_eq_some matched
  cases read : SymbolTable.read? memory base command with
  | none =>
      rw [read] at answer
      cases answer
  | some table =>
      rw [read] at answer
      exact SymbolTable.findSymbol?_value_le answer

end CrashCapture.Image

/-
Module: PaperTrading.Proofs.PriceFile.Confinement
Purpose: The price file of a symbol lies in the directory of the price files.
Main exports: pathSteps, pathSteps_joinPath, IsEntryOf, toNat_of_isSymbolCharacter, forall_raised_isSymbolCharacter,
  PriceDirectory.fileOf_isEntryOf

The characters that a symbol may consist of are no separators of paths, and neither are they in upper case.
-/
import PaperTrading.Proofs.PriceFile.Listing
import PaperTrading.Proofs.Rule.Tokens
import PaperTrading.Settings.RunSettings

namespace PaperTrading

section Paths

variable {directory name : String}

/-- The steps of a path from where it starts.  An empty part and a point are no steps. -/
def pathSteps (path : String) : List String :=
  (FileTree.parts path).filter fun name => !name.isEmpty && name != "."

theorem pathSteps_append_slash (front back : String) :
    pathSteps (front ++ "/" ++ back) = pathSteps front ++ pathSteps back := by
  have split : (front ++ "/" ++ back).toList = front.toList ++ '/' :: back.toList := by simp
  rw [pathSteps, FileTree.parts, split, List.splitOn_append_cons_self, List.map_append, List.filter_append]
  rfl

/-- A name is one step. -/
theorem pathSteps_of_name (below : '/' ∉ name.toList) (named : name ≠ "") (elsewhere : name ≠ ".") :
    pathSteps name = [name] := by
  have kept : (!name.isEmpty && name != ".") = true := by simp [named, elsewhere]
  rw [pathSteps, FileTree.parts, List.splitOn_eq_singleton below, List.map_singleton, String.ofList_toList]
  exact List.filter_eq_self.2 (List.forall_mem_singleton.2 kept)

theorem exists_of_endsWith_slash (closed : directory.endsWith "/" = true) : ∃ front, directory = front ++ "/" := by
  have closed : directory.toSlice.endsWith "/" = true := closed
  obtain ⟨front, split⟩ := String.Slice.endsWith_string_iff.1 closed
  refine ⟨String.ofList front, String.toList_inj.1 ?_⟩
  simpa using split.symm

/-- The path of an entry has one step more than that of its directory. -/
theorem pathSteps_joinPath (below : '/' ∉ name.toList) (named : name ≠ "") (elsewhere : name ≠ ".") :
    pathSteps (joinPath directory name) = pathSteps directory ++ [name] := by
  have single := pathSteps_of_name below named elsewhere
  have nothing : pathSteps "" = [] := by decide +kernel
  rw [joinPath, startsWith_slash_eq_false below, Bool.false_or]
  split
  case isTrue empty =>
    rw [String.isEmpty_iff.1 empty, nothing, single]
    rfl
  case isFalse =>
    split
    case isTrue closed =>
      obtain ⟨front, rfl⟩ := exists_of_endsWith_slash closed
      have bare : pathSteps (front ++ "/") = pathSteps front := by
        rw [← String.append_empty (s := front ++ "/"), pathSteps_append_slash, nothing, List.append_nil]
      rw [pathSteps_append_slash, bare, single]
    case isFalse => rw [pathSteps_append_slash, single]

theorem startsWith_slash_append {front : String} (back : String) (filled : front ≠ "") :
    (front ++ back).startsWith "/" = front.startsWith "/" := by
  obtain ⟨first, rest, spelled⟩ := List.exists_cons_of_ne_nil (String.toList_eq_nil_iff.not.2 filled)
  have slash : "/".toList = ['/'] := rfl
  rw [Bool.eq_iff_iff, String.startsWith_string_iff, String.startsWith_string_iff, String.toList_append, spelled, slash,
    List.cons_append, List.cons_prefix_cons, List.cons_prefix_cons]
  simp

/-- The path of an entry starts where that of its directory does. -/
theorem startsWith_slash_joinPath (below : '/' ∉ name.toList) :
    (joinPath directory name).startsWith "/" = directory.startsWith "/" := by
  have relative := startsWith_slash_eq_false below
  rw [joinPath, relative, Bool.false_or]
  split
  case isTrue empty => rw [relative, String.isEmpty_iff.1 empty, startsWith_slash_eq_false (by decide)]
  case isFalse filled =>
    have filled : directory ≠ "" := fun empty => filled (String.isEmpty_iff.2 empty)
    split
    case isTrue => exact startsWith_slash_append name filled
    case isFalse => rw [String.append_assoc, startsWith_slash_append _ filled]

/-- A path leads to the entry of a directory with a name, and the name is one on every system: it has no separators, and it
does not stand for the directory or the one above. -/
structure IsEntryOf (path directory name : String) : Prop where
  rooted : path.startsWith "/" = directory.startsWith "/"
  steps : pathSteps path = pathSteps directory ++ [name]
  noSlash : '/' ∉ name.toList
  noBackslash : '\\' ∉ name.toList
  named : name ≠ ""
  notHere : name ≠ "."
  notAbove : name ≠ ".."

end Paths

section Symbols

variable {symbol : String}

theorem toNat_of_isSymbolCharacter {c : Char} (allowed : isSymbolCharacter c = true) : 32 < c.toNat ∧ c.toNat < 128 := by
  simp only [isSymbolCharacter, Bool.or_eq_true, beq_iff_eq] at allowed
  obtain ((alphanumeric | rfl) | rfl) | rfl := allowed
  · exact toNat_of_isNameCharacter (by rw [isNameCharacter, alphanumeric, Bool.true_or])
  · decide
  · decide
  · decide

/-- The characters of a symbol stay among them in upper case. -/
theorem forall_raised_isSymbolCharacter (allowed : ∀ c ∈ symbol.toList, isSymbolCharacter c = true) :
    ∀ c ∈ (Text.raised symbol).toList, isSymbolCharacter c = true := by
  intro c member
  rw [Text.raised, String.toList_ofList, Text.upperCase, List.mem_flatMap] at member
  obtain ⟨original, listed, image⟩ := member
  have allowed := allowed original listed
  have ascii := (toNat_of_isSymbolCharacter allowed).2
  rw [Text.upperOne, if_pos ascii, List.mem_singleton] at image
  have every := Text.forall_ascii (fun c => isSymbolCharacter c = true → isSymbolCharacter c.toUpper = true)
    (by decide +kernel) ascii
  exact image ▸ every allowed

namespace PriceDirectory

variable (directory : PriceDirectory)

/-- The price file of a symbol is an entry of its directory. -/
theorem fileOf_isEntryOf (allowed : ∀ c ∈ symbol.toList, isSymbolCharacter c = true) :
    IsEntryOf (directory.fileOf symbol) directory.path (Text.raised symbol ++ ".csv") := by
  have characters : ∀ c ∈ (Text.raised symbol ++ ".csv").toList, isSymbolCharacter c = true := by
    intro c member
    rw [String.toList_append, List.mem_append] at member
    obtain inSymbol | inExtension := member
    · exact forall_raised_isSymbolCharacter allowed c inSymbol
    · have every : ∀ c ∈ ".csv".toList, isSymbolCharacter c = true := by decide
      exact every c inExtension
  have without (c : Char) (refused : isSymbolCharacter c = false) : c ∉ (Text.raised symbol ++ ".csv").toList := by
    intro member
    rw [characters c member] at refused
    cases refused
  have longer : 4 ≤ (Text.raised symbol ++ ".csv").length := by
    rw [String.length_append]
    exact Nat.le_add_left 4 _
  have other (short : String) (length : short.length < 4) : Text.raised symbol ++ ".csv" ≠ short := by
    rintro rfl
    omega
  have below := without '/' (by decide)
  have named := other "" (by decide)
  have elsewhere := other "." (by decide)
  exact
    { rooted := startsWith_slash_joinPath below
      steps := pathSteps_joinPath below named elsewhere
      noSlash := below
      noBackslash := without '\\' (by decide)
      named := named
      notHere := elsewhere
      notAbove := other ".." (by decide) }

end PriceDirectory

end Symbols

end PaperTrading

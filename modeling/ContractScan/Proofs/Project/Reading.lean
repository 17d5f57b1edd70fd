import ContractScan.Proofs.Project.Opening
import ContractScan.Proofs.Text.Encoding

/-! # The text that is read from a file

Reading loses nothing but the difference between line ends. A file that holds the encoding of a text gives that
text with uniform line ends, and bytes that are no encoding of a text show by a replacement character.
-/

namespace ContractScan

open Text

namespace Text.Utf8

theorem return_not_mem_readText (bytes : List UInt8) : '\r' ∉ (readText bytes).toList := by
  rw [readText, String.toList_ofList]
  exact return_not_mem_unifyLineEnds _

theorem return_not_mem_decode {bytes : List UInt8} (noReturn : 0x0D ∉ bytes) : '\r' ∉ decode bytes := by
  intro member
  obtain ⟨b, here, code⟩ := mem_of_mem_decodeFrom settled_none member isPlain_return
  obtain rfl : b = 0x0D := UInt8.toNat_inj.mp code.symm
  exact noReturn here

theorem readText_toUTF8 (text : String) :
    (readText text.toUTF8.data.toList).toList =
      (withPrevious text.toList).flatMap fun (before, c) => uniformEnd before c := by
  rw [readText, String.toList_ofList, decode_toUTF8, unifyLineEnds_eq_flatMap]

/-- Without carriage returns the text is the decoded one, so its encoding gives the bytes back. -/
theorem toUTF8_readText {bytes : List UInt8} (noReturn : 0x0D ∉ bytes)
    (clean : replacement ∉ (readText bytes).toList) : (readText bytes).toUTF8.data.toList = bytes := by
  have decoded : (readText bytes).toList = decode bytes := by
    rw [readText, String.toList_ofList, unifyLineEnds_of_not_mem (return_not_mem_decode noReturn)]
  rw [decoded] at clean
  rw [toUTF8_eq_flatMap, decoded, flatMap_encode_decode clean]

end Text.Utf8

/-- A file can always be read, and no carriage return is left in its text. The encoding of a text is read as that
text with uniform line ends. A text without replacement characters that comes from bytes without carriage returns
has those bytes as its encoding. -/
theorem readSource_exact {root : Entry} {path : Path} {bytes : List UInt8}
    (held : root.openPath path = .ok (.file bytes)) :
    ∃ text, root.readSource path = .ok text ∧ '\r' ∉ text.toList ∧
      (∀ written : String, written.toUTF8.data.toList = bytes →
        text.toList = (withPrevious written.toList).flatMap fun (before, c) => uniformEnd before c) ∧
      (0x0D ∉ bytes → '�' ∉ text.toList → text.toUTF8.data.toList = bytes) := by
  refine ⟨Utf8.readText bytes, Entry.readSource_eq_ok.mpr ⟨bytes, held, rfl⟩,
    Utf8.return_not_mem_readText bytes, ?_, Utf8.toUTF8_readText⟩
  rintro written rfl
  exact Utf8.readText_toUTF8 written

theorem readSource_exact_mixed_line_ends :
    let root : Entry := .directory [("a.sol", .file "é\r\n\r😀\r\r\n".toUTF8.data.toList), ("b.sol", .link "c.sol"),
      ("c.sol", .file [0xE2, 0x82, 0xAC, 0x0A])]
    root.openPath ["a.sol"] = .ok (.file "é\r\n\r😀\r\r\n".toUTF8.data.toList) ∧
      root.readSource ["a.sol"] = .ok "é\n\n😀\n\n" ∧
      root.openPath ["b.sol"] = .ok (.file [0xE2, 0x82, 0xAC, 0x0A]) ∧
      ∃ text, root.readSource ["b.sol"] = .ok text ∧ text.toUTF8.data.toList = [0xE2, 0x82, 0xAC, 0x0A] := by
  intro root
  have held : root.openPath ["a.sol"] = .ok (.file "é\r\n\r😀\r\r\n".toUTF8.data.toList) := rfl
  have held' : root.openPath ["b.sol"] = .ok (.file [0xE2, 0x82, 0xAC, 0x0A]) := by rfl
  obtain ⟨text, read, -, uniform, -⟩ := readSource_exact held
  obtain ⟨other, read', -, -, encoded⟩ := readSource_exact held'
  have same : text = "é\n\n😀\n\n" := by
    apply String.toList_injective
    rw [uniform _ rfl]
    decide +kernel
  have euro : other = "€\n" := by
    have shown : root.readSource ["b.sol"] = .ok "€\n" := by rfl
    rw [read'] at shown
    exact Except.ok.inj shown
  refine ⟨held, same ▸ read, held', other, read', encoded (by decide) ?_⟩
  rw [euro]
  decide

end ContractScan

import SessionReplay.Proofs.Storage.Lookup
import SessionReplay.Proofs.Text.Base64
import SessionReplay.Report.Screenshot

/-!
# Images that are cut

The text of a large image is cut behind a whole number of groups, so that what is left is the text
of the beginning of the image.

* `length_toList`: the bytes of an array, one by one.
* `Screenshot.encode_of_le`, `Screenshot.encode_of_lt`: the text of a small and of a large image.
* `Screenshot.load_decodes`: which bytes the text of an image is read as.
-/

namespace SessionReplay

/-! ## Sizes -/

theorem length_toList_loop (bytes : ByteArray) (i : Nat) (done : List UInt8) :
    (ByteArray.toList.loop bytes i done).length = done.length + (bytes.size - i) := by
  fun_induction ByteArray.toList.loop bytes i done with
  | case1 i done hi ih =>
    rw [ih, List.length_cons]
    omega
  | case2 i done hi =>
    rw [List.length_reverse]
    omega

theorem length_toList (bytes : ByteArray) : bytes.toList.length = bytes.size := by
  rw [ByteArray.toList, length_toList_loop]
  simp

theorem utf8ByteSize_of_bytes {l : List Char} (h : ∀ c ∈ l, c.utf8Size = 1) :
    (String.ofList l).utf8ByteSize = l.length := by
  induction l with
  | nil => rfl
  | cons c l ih =>
    have hRest := ih fun d hd => h d (List.mem_cons_of_mem c hd)
    rw [← List.singleton_append, String.ofList_append, String.utf8ByteSize_append, hRest]
    simp [h c List.mem_cons_self, Nat.add_comm]

namespace Screenshot

open Storage Text

variable {d : Disk} {path : String} {bytes : ByteArray}

/-! ## The text of an image -/

theorem encode_of_le (h : bytes.size ≤ 512000) :
    encode bytes = String.ofList (base64Chars bytes.toList) := by
  have hSmall : ¬ maxBytes < bytes.size := Nat.not_lt.2 h
  rw [encode, if_neg hSmall]

/-- As many characters as are left are the text of three quarters as many bytes. -/
theorem take_large (h : 512000 < bytes.size) :
    (base64Chars bytes.toList).take 512000 = base64Chars (bytes.toList.take 384000) := by
  have hBytes : 3 * 128000 ≤ bytes.toList.length := by
    rw [length_toList]
    omega
  exact take_base64Chars hBytes

theorem encode_of_lt (h : 512000 < bytes.size) :
    encode bytes = String.ofList (base64Chars (bytes.toList.take 384000)) := by
  have hLarge : maxBytes < bytes.size := h
  rw [encode, if_pos hLarge, ← take_large h]
  rfl

theorem length_take_large (h : 512000 < bytes.size) :
    (bytes.toList.take 384000).length = 384000 := by
  rw [List.length_take, length_toList]
  omega

/-- The text of a large image goes on where it is cut. -/
theorem exists_rest (h : 512000 < bytes.size) : ∃ rest : String, rest ≠ "" ∧
    encode bytes ++ rest = String.ofList (base64Chars bytes.toList) := by
  refine ⟨String.ofList ((base64Chars bytes.toList).drop 512000), ?_, ?_⟩
  · intro hEmpty
    have hChars := congrArg String.toList hEmpty
    rw [String.toList_ofList, String.toList_empty, List.drop_eq_nil_iff, length_base64Chars,
      length_toList] at hChars
    omega
  · rw [encode_of_lt h, ← take_large h, ← String.ofList_append, List.take_append_drop]

/-- **The bytes of a text.** The text of an image of 512000 bytes at most is the one text that is
read as the image. Of a larger image the text has 512000 characters, none of which fills a group
up, and is read as its first 384000 bytes. It is cut between two characters of a longer text, which
is read as the whole image. -/
theorem load_decodes (hRead : d.read path = .ok bytes) :
    ∃ text, load d path = .ok text ∧
      (bytes.size ≤ 512000 →
        ∀ t : String, base64Bytes? t.toList = some bytes.toList ↔ t = text) ∧
      (512000 < bytes.size →
        text.length = 512000 ∧ '=' ∉ text.toList ∧
        base64Bytes? text.toList = some (bytes.toList.take 384000) ∧
        ∃ rest, rest ≠ "" ∧ base64Bytes? (text ++ rest).toList = some bytes.toList ∧
          text.utf8ByteSize = 512000 ∧ String.Pos.Raw.IsValid (text ++ rest) ⟨512000⟩) := by
  refine ⟨encode bytes, ?_, ?_, ?_⟩
  · rw [load, hRead]
    rfl
  · intro hSmall t
    rw [encode_of_le hSmall, base64Bytes?_eq_some_iff]
    constructor
    · intro hChars
      rw [hChars, String.ofList_toList]
    · rintro rfl
      rw [String.toList_ofList]
  · intro hLarge
    have hLength := length_take_large hLarge
    have hChars : (base64Chars (bytes.toList.take 384000)).length = 512000 := by
      rw [length_base64Chars, hLength]
    have hSize : (encode bytes).utf8ByteSize = 512000 := by
      rw [encode_of_lt hLarge, utf8ByteSize_of_bytes fun c hc => utf8Size_of_mem hc, hChars]
    obtain ⟨rest, hRest, hWhole⟩ := exists_rest hLarge
    refine ⟨?_, ?_, ?_, rest, hRest, ?_, hSize, ?_⟩
    · rw [encode_of_lt hLarge, String.length_ofList, hChars]
    · rw [encode_of_lt hLarge, String.toList_ofList]
      apply filling_not_mem
      rw [hLength]
    · rw [encode_of_lt hLarge, String.toList_ofList, base64Bytes?_eq_some_iff]
    · rw [hWhole, String.toList_ofList, base64Bytes?_eq_some_iff]
    · apply String.Pos.Raw.isValid_iff_exists_append.2
      refine ⟨encode bytes, rest, rfl, ?_⟩
      rw [String.rawEndPos, hSize]

/-- A disk with one image. -/
def album (bytes : ByteArray) : Disk := (Disk.empty []).put ["a.png"] (.file bytes)

theorem read_album (bytes : ByteArray) : (album bytes).read "a.png" = .ok bytes := by
  have hCheck : Disk.checkPath "a.png" = .ok () := Disk.checkPath_eq_ok.2 (by decide +kernel)
  have hPieces : Path.pieces "a.png" = ["a.png"] := by decide +kernel
  have hFind : (album bytes).find "a.png" = .ok (["a.png"], .file bytes) := by
    refine Disk.find_eq_ok.2 ⟨hCheck, ?_, rfl⟩
    rw [hPieces]
    rfl
  rw [Disk.read, hFind]
  rfl

/-- An image that is one byte too large loses more than a quarter of its bytes. -/
theorem load_decodes_one_too_large :
    let bytes : ByteArray := ⟨Array.replicate 512001 7⟩
    (album bytes).read "a.png" = .ok bytes ∧ 512000 < bytes.size ∧
      ∃ text, load (album bytes) "a.png" = .ok text ∧ text.length = 512000 ∧
        '=' ∉ text.toList ∧ base64Bytes? text.toList = some (bytes.toList.take 384000) := by
  intro bytes
  have hRead := read_album bytes
  have hLarge : 512000 < bytes.size := by simp [bytes, ByteArray.size]
  obtain ⟨text, hLoad, -, hText⟩ := load_decodes hRead
  obtain ⟨hLength, hFilling, hBytes, -⟩ := hText hLarge
  exact ⟨hRead, hLarge, text, hLoad, hLength, hFilling, hBytes⟩

end Screenshot
end SessionReplay

import Mathlib.Data.List.Basic
import RegistryRelay.Device
import RegistryRelay.Proofs.Keys.Decoding

namespace RegistryRelay

namespace Base64

def written (key : List UInt8) : String :=
  String.ofList ((encode key).map fun byte => Char.ofNat byte.toNat)

variable {key text : List UInt8}

theorem encode_ascii (key : List UInt8) : ∀ byte ∈ encode key, byte.toNat < 128 := by
  have symbols : ∀ v < 64, (symbol v).toNat < 128 := by decide
  rw [encode_sextets]
  refine List.forall_mem_append.mpr ⟨List.forall_mem_map.mpr fun v member => ?_,?_⟩
  · exact symbols v (sextets_small key v member)
  · intro byte member
    rw [List.eq_of_mem_replicate member]
    decide

theorem utf8_ascii {byte : UInt8} (ascii : byte.toNat < 128) :
    String.utf8EncodeChar (Char.ofNat byte.toNat) = [byte] := by
  have single : ∀ n < 128, String.utf8EncodeChar (Char.ofNat n) = [UInt8.ofNat n] := by decide
  rw [single byte.toNat ascii,UInt8.ofNat_toNat]

theorem written_utf8 (key : List UInt8) : (written key).toUTF8.data.toList = encode key := by
  have same : ∀ byte ∈ encode key,
      String.utf8EncodeChar (Char.ofNat byte.toNat) = [byte] :=
    fun byte member => utf8_ascii (encode_ascii key byte member)
  rw [String.toUTF8,written,String.toByteArray_ofList,List.utf8Encode,List.toList_data_toByteArray,
    List.flatMap_map,List.flatMap_congr same,List.flatMap_singleton']

theorem utf8_eq_iff {text : String} : text.toUTF8.data.toList = encode key ↔ text = written key := by
  rw [← written_utf8,Array.toList_inj]
  constructor
  · intro same
    exact String.toByteArray_inj.mp (ByteArray.ext same)
  · rintro rfl
    rfl

theorem written_injective : Function.Injective written := by
  intro one two same
  have decoded := decode_encode one
  rw [← written_utf8,same,written_utf8,decode_encode] at decoded
  cases decoded
  rfl

end Base64

namespace Device

variable {device : Device} {algorithm text : String}

theorem keyMaterial_unnamed (absent : device.metadata.get? algorithmKey = none) :
    device.keyMaterial = .error (.missingKeyMaterial device.id algorithmKey) := by
  simp only [keyMaterial,required,absent]

theorem keyMaterial_keyless (named : device.metadata.get? algorithmKey = some algorithm)
    (absent : device.metadata.get? bytesKey = none) :
    device.keyMaterial = .error (.missingKeyMaterial device.id bytesKey) := by
  simp only [keyMaterial,required,named,absent]

theorem keyMaterial_refused {error : Base64.Error}
    (named : device.metadata.get? algorithmKey = some algorithm)
    (present : device.metadata.get? bytesKey = some text)
    (refused : Base64.decode text.toUTF8.data.toList = .error error) :
    device.keyMaterial = .error (.keyDecode error) := by
  simp only [keyMaterial,required,named,present,refused]

theorem keyMaterial_found {bytes : List UInt8}
    (named : device.metadata.get? algorithmKey = some algorithm)
    (present : device.metadata.get? bytesKey = some text)
    (decoded : Base64.decode text.toUTF8.data.toList = .ok bytes) :
    device.keyMaterial = .ok ⟨algorithm,bytes⟩ := by
  simp only [keyMaterial,required,named,present,decoded]

-- The four ways in which asking for the key of a device can end, each with what it takes. A key is
-- found exactly where its one text in base64 is.
theorem key_found_as_written (device : Device) :
    (device.keyMaterial = .error (.missingKeyMaterial device.id algorithmKey) ↔
      device.metadata.get? algorithmKey = none) ∧
    (device.keyMaterial = .error (.missingKeyMaterial device.id bytesKey) ↔
      (device.metadata.get? algorithmKey).isSome ∧ device.metadata.get? bytesKey = none) ∧
    (∀ algorithm bytes, device.keyMaterial = .ok ⟨algorithm,bytes⟩ ↔
      device.metadata.get? algorithmKey = some algorithm ∧
        device.metadata.get? bytesKey = some (Base64.written bytes)) ∧
    ((∃ error, device.keyMaterial = .error (.keyDecode error)) ↔
      (device.metadata.get? algorithmKey).isSome ∧
        ∃ text, device.metadata.get? bytesKey = some text ∧ ∀ bytes, text ≠ Base64.written bytes) ∧
    (∀ bytes text, Base64.Standard bytes text ↔ text = (Base64.written bytes).toUTF8.data.toList) ∧
    Function.Injective Base64.written := by
  have apart : algorithmKey ≠ bytesKey := by decide
  have standard : ∀ bytes text, Base64.Standard bytes text ↔
      text = (Base64.written bytes).toUTF8.data.toList := by
    intro bytes text
    rw [Base64.written_utf8,Base64.standard_iff]
  cases named : device.metadata.get? algorithmKey with
  | none =>
      refine ⟨?_,?_,?_,?_,standard,Base64.written_injective⟩ <;>
        simp [keyMaterial_unnamed named,apart]
  | some algorithm =>
      cases present : device.metadata.get? bytesKey with
      | none =>
          refine ⟨?_,?_,?_,?_,standard,Base64.written_injective⟩ <;>
            simp [keyMaterial_keyless named present,apart.symm]
      | some text =>
          have spells : ∀ bytes, Base64.decode text.toUTF8.data.toList = .ok bytes ↔
              text = Base64.written bytes :=
            fun bytes => Base64.decode_eq_ok_iff.trans Base64.utf8_eq_iff
          cases decoded : Base64.decode text.toUTF8.data.toList with
          | error error =>
              have nobody : ∀ bytes, text ≠ Base64.written bytes := by
                intro bytes same
                cases decoded.symm.trans ((spells bytes).mpr same)
              refine ⟨?_,?_,?_,?_,standard,Base64.written_injective⟩ <;>
                simp [keyMaterial_refused named present decoded,nobody]
          | ok bytes =>
              have same := (spells bytes).mp decoded
              refine ⟨?_,?_,?_,?_,standard,Base64.written_injective⟩ <;>
                simp [keyMaterial_found named present decoded,same,Base64.written_injective.eq_iff]

end Device
end RegistryRelay

import NaiveProxy.Quic.DataWriter

/-!
# `CryptoUtils`: derived key inputs and the downgrade checks

Four functions of `quic/core/crypto/crypto_utils.cc`:

* the start of `DeriveKeys`, which with a pre-shared key writes
  `"QUIC PSK" ‖ 0x00 ‖ psk ‖ u64(|psk|) ‖ premaster ‖ u64(|premaster|)` into a buffer
  of exactly that size through a `QuicDataWriter` and goes on with it as the
  premaster secret;
* `ExportKeyingMaterial`, which refuses a label with a NUL byte or a context of
  `2^32 - 1` bytes or more, and otherwise hands HKDF the info string
  `label ‖ 0x00 ‖ u32(|context|) ‖ context`;
* `ValidateServerHelloVersions` and `ValidateClientHelloVersion`, the two checks
  that a version negotiation was not a downgrade.

`QuicHKDF` and the version helpers of `quic_versions.h` are not in `src/`; they are
parameters. The size arithmetic is `size_t` of `width` bits, and integers are laid
out in the machine's byte order `host`. Then:

    deriveKeysPremasterSecret_psk          when the sizes do not wrap, every write
                                           succeeds and fills the buffer, and the
                                           concatenation is injective
    exportKeyingMaterial_info_injective    the refusals are exactly the NUL label
                                           and the long context; an accepted
                                           request's key is HKDF's over the info
                                           string, which is injective on them
    validateServerHelloVersions_eq         a mismatch exactly when versions were
                                           negotiated and the server's list is not
                                           their labels; no read leaves the lists
    validateClientHelloVersion_eq          a mismatch exactly when the client's
                                           version is not the connection's but
                                           labels a supported version
-/

namespace Quic

namespace CryptoUtils

/-! ## The pre-shared-key branch of `DeriveKeys` -/

/-- `kPreSharedKeyLabel`, as the bytes of the `string_view` over it. -/
def kPreSharedKeyLabel : List UInt8 := "QUIC PSK".toList.map fun c => c.toNat.toUInt8

/-- `psk_premaster_secret_size`, a `size_t`. -/
def pskPremasterSecretSize (width : Nat) (preSharedKey premasterSecret : List UInt8) : Nat :=
  (kPreSharedKeyLabel.length + 1 + preSharedKey.length + 8 + premasterSecret.length + 8) % 2 ^ width

/-- The writes of the branch, in order, into a writer over the
`psk_premaster_secret_size`-byte buffer; `none` at the first that fails. -/
def writePskPremasterSecret (host : ByteOrder) (width : Nat) (preSharedKey premasterSecret : List UInt8) :
    Option QuicDataWriter :=
  (QuicDataWriter.mk (pskPremasterSecretSize width preSharedKey premasterSecret) host []).writeStringPiece
      kPreSharedKeyLabel >>= (·.writeUInt8 0) >>= (·.writeStringPiece preSharedKey) >>=
    (·.writeUInt64 preSharedKey.length) >>= (·.writeStringPiece premasterSecret) >>=
    (·.writeUInt64 premasterSecret.length)

/-- The premaster secret `DeriveKeys` goes on with: the given one without a pre-shared
key, else the branch's buffer; `none` where `DeriveKeys` returns false. The rest of
`DeriveKeys` builds crypters, whose classes are not in `src/`. -/
def deriveKeysPremasterSecret (host : ByteOrder) (width : Nat) (preSharedKey premasterSecret : List UInt8) :
    Option (List UInt8) :=
  if preSharedKey.isEmpty then some premasterSecret
  else
    match writePskPremasterSecret host width preSharedKey premasterSecret with
    | some writer => if writer.remaining != 0 then none else some writer.written
    | none => none

/-- The bytes the branch writes, one piece after another. -/
def pskConcatenation (host : ByteOrder) (preSharedKey premasterSecret : List UInt8) : List UInt8 :=
  kPreSharedKeyLabel ++ [0] ++ preSharedKey ++ uintBytes host 8 preSharedKey.length ++ premasterSecret ++
    uintBytes host 8 premasterSecret.length

theorem length_pskConcatenation (host : ByteOrder) (preSharedKey premasterSecret : List UInt8) :
    (pskConcatenation host preSharedKey premasterSecret).length =
      kPreSharedKeyLabel.length + 1 + preSharedKey.length + 8 + premasterSecret.length + 8 := by
  simp only [pskConcatenation, List.length_append, List.length_singleton, length_uintBytes]

theorem writePskPremasterSecret_eq (host : ByteOrder) (width : Nat) (preSharedKey premasterSecret : List UInt8) :
    writePskPremasterSecret host width preSharedKey premasterSecret =
      (QuicDataWriter.mk (pskPremasterSecretSize width preSharedKey premasterSecret) host []).writeBytes
        (pskConcatenation host preSharedKey premasterSecret) := by
  simp only [writePskPremasterSecret, QuicDataWriter.writeStringPiece, QuicDataWriter.writeUInt8,
    QuicDataWriter.writeUInt64, QuicDataWriter.writeBytes_bind_writeBytes]
  rfl

section PreSharedKey

variable (host : ByteOrder) {width : Nat}

theorem writePskPremasterSecret_of_lt {preSharedKey premasterSecret : List UInt8}
    (h : kPreSharedKeyLabel.length + 1 + preSharedKey.length + 8 + premasterSecret.length + 8 < 2 ^ width) :
    ∃ writer, writePskPremasterSecret host width preSharedKey premasterSecret = some writer ∧
      writer.remaining = 0 ∧ writer.written = pskConcatenation host preSharedKey premasterSecret := by
  have hsize : pskPremasterSecretSize width preSharedKey premasterSecret =
      (pskConcatenation host preSharedKey premasterSecret).length := by
    rw [pskPremasterSecretSize, Nat.mod_eq_of_lt h, length_pskConcatenation]
  rw [writePskPremasterSecret_eq, QuicDataWriter.writeBytes_of_le (by simp [QuicDataWriter.remaining, hsize])]
  exact ⟨_, rfl, by simp [QuicDataWriter.remaining, hsize], List.nil_append _⟩

theorem deriveKeysPremasterSecret_of_le {preSharedKey premasterSecret : List UInt8} (hpsk : preSharedKey ≠ [])
    (h : 2 ^ width ≤ kPreSharedKeyLabel.length + 1 + preSharedKey.length + 8 + premasterSecret.length + 8) :
    deriveKeysPremasterSecret host width preSharedKey premasterSecret = none := by
  have hsize : pskPremasterSecretSize width preSharedKey premasterSecret <
      (pskConcatenation host preSharedKey premasterSecret).length := by
    rw [length_pskConcatenation]
    exact Nat.lt_of_lt_of_le (Nat.mod_lt _ (Nat.two_pow_pos width)) h
  rw [deriveKeysPremasterSecret, if_neg (by simpa using hpsk), writePskPremasterSecret_eq,
    QuicDataWriter.writeBytes_of_lt (by simpa [QuicDataWriter.remaining] using hsize)]

/-- The concatenation is injective while the premaster secret's length fits its
`uint64_t` field: the field gives that length, which splits off the premaster
secret, and the pre-shared key is what lies before its own fixed-width field. -/
theorem pskConcatenation_inj {preSharedKey₁ premasterSecret₁ preSharedKey₂ premasterSecret₂ : List UInt8}
    (h₁ : premasterSecret₁.length < 256 ^ 8) (h₂ : premasterSecret₂.length < 256 ^ 8)
    (h : pskConcatenation host preSharedKey₁ premasterSecret₁ = pskConcatenation host preSharedKey₂ premasterSecret₂) :
    preSharedKey₁ = preSharedKey₂ ∧ premasterSecret₁ = premasterSecret₂ := by
  obtain ⟨hfront, hfield⟩ := List.append_inj' h (by simp)
  have hlen : premasterSecret₁.length = premasterSecret₂.length := by
    simpa only [Nat.mod_eq_of_lt h₁, Nat.mod_eq_of_lt h₂] using uintBytes_inj hfield
  obtain ⟨hkey, hpremaster⟩ := List.append_inj' hfront hlen
  obtain ⟨hlabel, -⟩ := List.append_inj' hkey (by simp)
  exact ⟨List.append_cancel_left hlabel, hpremaster⟩

theorem deriveKeysPremasterSecret_psk (hwidth : width ≤ 64) :
    (∀ preSharedKey premasterSecret, preSharedKey ≠ [] →
        kPreSharedKeyLabel.length + 1 + preSharedKey.length + 8 + premasterSecret.length + 8 < 2 ^ width →
        (∃ writer, writePskPremasterSecret host width preSharedKey premasterSecret = some writer ∧
            writer.remaining = 0 ∧ writer.written = pskConcatenation host preSharedKey premasterSecret) ∧
          deriveKeysPremasterSecret host width preSharedKey premasterSecret =
            some (pskConcatenation host preSharedKey premasterSecret)) ∧
      ∀ preSharedKey₁ premasterSecret₁ preSharedKey₂ premasterSecret₂,
        kPreSharedKeyLabel.length + 1 + preSharedKey₁.length + 8 + premasterSecret₁.length + 8 < 2 ^ width →
        kPreSharedKeyLabel.length + 1 + preSharedKey₂.length + 8 + premasterSecret₂.length + 8 < 2 ^ width →
        pskConcatenation host preSharedKey₁ premasterSecret₁ = pskConcatenation host preSharedKey₂ premasterSecret₂ →
        preSharedKey₁ = preSharedKey₂ ∧ premasterSecret₁ = premasterSecret₂ := by
  have hword : 2 ^ width ≤ 256 ^ 8 := Nat.pow_le_pow_right (by decide) hwidth
  refine ⟨fun preSharedKey premasterSecret hpsk h => ?_, fun _ _ _ _ h₁ h₂ => pskConcatenation_inj host (by omega) (by omega)⟩
  obtain ⟨writer, hw, hrem, hwritten⟩ := writePskPremasterSecret_of_lt host h
  refine ⟨⟨writer, hw, hrem, hwritten⟩, ?_⟩
  rw [deriveKeysPremasterSecret, if_neg (by simpa using hpsk), hw]
  simp [hrem, hwritten]

theorem deriveKeysPremasterSecret_psk_one_byte_each :
    64 ≤ 64 ∧ deriveKeysPremasterSecret .littleEndian 64 [1] [2] = some (pskConcatenation .littleEndian [1] [2]) :=
  ⟨Nat.le_refl 64, ((deriveKeysPremasterSecret_psk .littleEndian (Nat.le_refl 64)).1 [1] [2] (by decide) (by decide)).2⟩

end PreSharedKey

/-! ## `ExportKeyingMaterial` -/

/-- The HKDF `info` of `ExportKeyingMaterial`: the label, a NUL, the `uint32_t`
`context_length` in the machine's byte order, and the context. -/
def exportKeyingMaterialInfo (host : ByteOrder) (label context : List UInt8) : List UInt8 :=
  label ++ [0] ++ uintBytes host 4 context.length ++ context

/-- `ExportKeyingMaterial(subkey_secret, label, context, result_len, &result)`: the
client write key of a `QuicHKDF` over the subkey secret, no salt and the info, or the
message it logs where it returns false. -/
def exportKeyingMaterial (host : ByteOrder)
    (quicHkdfClientWriteKey : (secret salt info : List UInt8) → (keyBytesToGenerate : Nat) → List UInt8)
    (subkeySecret label context : List UInt8) (resultLen : Nat) : Except String (List UInt8) :=
  if label.contains 0 then throw "ExportKeyingMaterial label may not contain NULs"
  else if 2 ^ 32 - 1 ≤ context.length then throw "Context value longer than 2^32"
  else pure (quicHkdfClientWriteKey subkeySecret [] (exportKeyingMaterialInfo host label context) resultLen)

section ExportKeyingMaterial

variable (host : ByteOrder) (quicHkdfClientWriteKey : List UInt8 → List UInt8 → List UInt8 → Nat → List UInt8)
  (subkeySecret : List UInt8) (resultLen : Nat)

theorem contains_zero_iff {label : List UInt8} : label.contains 0 = true ↔ 0 ∈ label := by
  simp

theorem exportKeyingMaterial_eq_ok {label context key : List UInt8} :
    exportKeyingMaterial host quicHkdfClientWriteKey subkeySecret label context resultLen = .ok key ↔
      0 ∉ label ∧ context.length < 2 ^ 32 - 1 ∧
        key = quicHkdfClientWriteKey subkeySecret [] (exportKeyingMaterialInfo host label context) resultLen := by
  unfold exportKeyingMaterial
  by_cases hnul : 0 ∈ label
  · rw [if_pos (contains_zero_iff.2 hnul)]
    exact ⟨nofun, fun h => absurd hnul h.1⟩
  rw [if_neg (mt contains_zero_iff.1 hnul)]
  by_cases hlong : 2 ^ 32 - 1 ≤ context.length
  · rw [if_pos hlong]
    exact ⟨nofun, fun h => absurd hlong (Nat.not_le_of_lt h.2.1)⟩
  · rw [if_neg hlong]
    exact ⟨fun h => ⟨hnul, Nat.lt_of_not_le hlong, (Except.ok.inj h).symm⟩, fun h => h.2.2 ▸ rfl⟩

theorem exportKeyingMaterial_eq_error {label context : List UInt8} :
    (∃ message, exportKeyingMaterial host quicHkdfClientWriteKey subkeySecret label context resultLen =
      .error message) ↔ 0 ∈ label ∨ 2 ^ 32 - 1 ≤ context.length := by
  unfold exportKeyingMaterial
  by_cases hnul : 0 ∈ label
  · rw [if_pos (contains_zero_iff.2 hnul)]
    exact ⟨fun _ => .inl hnul, fun _ => ⟨_, rfl⟩⟩
  rw [if_neg (mt contains_zero_iff.1 hnul)]
  by_cases hlong : 2 ^ 32 - 1 ≤ context.length
  · rw [if_pos hlong]
    exact ⟨fun _ => .inr hlong, fun _ => ⟨_, rfl⟩⟩
  · rw [if_neg hlong]
    exact ⟨fun ⟨_, h⟩ => (nomatch h), fun h => h.elim (absurd · hnul) (absurd · hlong)⟩

/-- A label without NUL bytes is the part of the info string before its first NUL,
and the context what follows the fixed-width length field. -/
theorem exportKeyingMaterialInfo_inj {label₁ context₁ label₂ context₂ : List UInt8}
    (hnul₁ : 0 ∉ label₁) (hnul₂ : 0 ∉ label₂)
    (h : exportKeyingMaterialInfo host label₁ context₁ = exportKeyingMaterialInfo host label₂ context₂) :
    label₁ = label₂ ∧ context₁ = context₂ := by
  simp only [exportKeyingMaterialInfo, List.append_assoc, List.singleton_append] at h
  have hlen : label₁.length = label₂.length := by
    simpa [List.indexOf_append_of_not_mem hnul₁, List.indexOf_append_of_not_mem hnul₂] using
      congrArg (List.indexOf 0) h
  obtain ⟨hlabel, hrest⟩ := List.append_inj h hlen
  exact ⟨hlabel, (List.append_inj (List.cons.inj hrest).2 (by simp)).2⟩

/-- The refusals are exactly the NUL label and the long context; an accepted request's
key is the `QuicHKDF` client write key over its info string, and two accepted
requests that hand HKDF the same info are the same request. -/
theorem exportKeyingMaterial_info_injective :
    (∀ label context,
        (∃ message, exportKeyingMaterial host quicHkdfClientWriteKey subkeySecret label context resultLen =
          .error message) ↔ 0 ∈ label ∨ 2 ^ 32 - 1 ≤ context.length) ∧
      (∀ label context key,
        exportKeyingMaterial host quicHkdfClientWriteKey subkeySecret label context resultLen = .ok key →
          key = quicHkdfClientWriteKey subkeySecret [] (exportKeyingMaterialInfo host label context) resultLen) ∧
      ∀ label₁ context₁ label₂ context₂ key₁ key₂,
        exportKeyingMaterial host quicHkdfClientWriteKey subkeySecret label₁ context₁ resultLen = .ok key₁ →
        exportKeyingMaterial host quicHkdfClientWriteKey subkeySecret label₂ context₂ resultLen = .ok key₂ →
        exportKeyingMaterialInfo host label₁ context₁ = exportKeyingMaterialInfo host label₂ context₂ →
        label₁ = label₂ ∧ context₁ = context₂ := by
  refine ⟨fun _ _ => exportKeyingMaterial_eq_error .., fun _ _ _ h => ((exportKeyingMaterial_eq_ok ..).1 h).2.2,
    fun _ _ _ _ _ _ h₁ h₂ => ?_⟩
  exact exportKeyingMaterialInfo_inj host ((exportKeyingMaterial_eq_ok ..).1 h₁).1
    ((exportKeyingMaterial_eq_ok ..).1 h₂).1

end ExportKeyingMaterial

/-! ## The downgrade checks -/

/-- The functions of `quic_versions.h` the checks call, over parsed versions `V`. -/
structure QuicVersions (V : Type) where
  createQuicVersionLabel : V → UInt32
  quicVersionLabelToString : UInt32 → String
  parsedQuicVersionToString : V → String
  quicVersionLabelVectorToString : List UInt32 → String → Nat → String
  parsedQuicVersionVectorToString : List V → String → Nat → String

/-- The two `QuicErrorCode`s the checks return. -/
inductive QuicErrorCode
  | quicNoError
  | quicVersionNegotiationMismatch
deriving DecidableEq, Repr

variable {V : Type} (vs : QuicVersions V)

/-- The loop of `ValidateServerHelloVersions` over the indices still to visit,
carrying `mismatch` and leaving as soon as it is set; each step reads both lists at
the index, `none` being a read outside a list. -/
def serverVersionsMismatch (serverVersions : List UInt32) (negotiatedVersions : List V) :
    List Nat → Bool → Option Bool
  | [], mismatch => some mismatch
  | i :: indices, mismatch =>
    if mismatch then some mismatch
    else
      match serverVersions[i]?, negotiatedVersions[i]? with
      | some server, some negotiated =>
        serverVersionsMismatch serverVersions negotiatedVersions indices
          (server != vs.createQuicVersionLabel negotiated)
      | _, _ => none

/-- The `error_details` of a server-side downgrade. -/
def serverDowngradeDetails (serverVersions : List UInt32) (negotiatedVersions : List V) : String :=
  "Downgrade attack detected: ServerVersions(" ++ toString serverVersions.length ++ ")[" ++
    vs.quicVersionLabelVectorToString serverVersions "," 30 ++ "] NegotiatedVersions(" ++
    toString negotiatedVersions.length ++ ")[" ++ vs.parsedQuicVersionVectorToString negotiatedVersions "," 30 ++
    "]"

/-- `ValidateServerHelloVersions(server_versions, negotiated_versions, &error_details)`:
the code and the `error_details` written (`none` where they are left alone), or `none`
for a read outside a list. -/
def validateServerHelloVersions (serverVersions : List UInt32) (negotiatedVersions : List V) :
    Option (QuicErrorCode × Option String) :=
  if negotiatedVersions.isEmpty then some (.quicNoError, none)
  else
    match serverVersionsMismatch vs serverVersions negotiatedVersions (List.range serverVersions.length)
        (serverVersions.length != negotiatedVersions.length) with
    | some true =>
      some (.quicVersionNegotiationMismatch, some (serverDowngradeDetails vs serverVersions negotiatedVersions))
    | some false => some (.quicNoError, none)
    | none => none

/-- The loop of `ValidateClientHelloVersion` over the indices still to visit: `true`
at the first supported version labelled `client_version`, `none` for a read outside
the list. -/
def clientVersionSupported (clientVersion : UInt32) (supportedVersions : List V) : List Nat → Option Bool
  | [] => some false
  | i :: indices =>
    match supportedVersions[i]? with
    | some supported =>
      if clientVersion == vs.createQuicVersionLabel supported then some true
      else clientVersionSupported clientVersion supportedVersions indices
    | none => none

/-- The `error_details` of a client-side downgrade. -/
def clientDowngradeDetails (clientVersion : UInt32) (connectionVersion : V) (supportedVersions : List V) :
    String :=
  "Downgrade attack detected: ClientVersion[" ++ vs.quicVersionLabelToString clientVersion ++
    "] ConnectionVersion[" ++ vs.parsedQuicVersionToString connectionVersion ++ "] SupportedVersions(" ++
    toString supportedVersions.length ++ ")[" ++ vs.parsedQuicVersionVectorToString supportedVersions "," 30 ++
    "]"

/-- `ValidateClientHelloVersion(client_version, connection_version, supported_versions,
&error_details)`, in the same form as `validateServerHelloVersions`. -/
def validateClientHelloVersion (clientVersion : UInt32) (connectionVersion : V) (supportedVersions : List V) :
    Option (QuicErrorCode × Option String) :=
  if clientVersion != vs.createQuicVersionLabel connectionVersion then
    match clientVersionSupported vs clientVersion supportedVersions (List.range supportedVersions.length) with
    | some true =>
      some (.quicVersionNegotiationMismatch,
        some (clientDowngradeDetails vs clientVersion connectionVersion supportedVersions))
    | some false => some (.quicNoError, none)
    | none => none
  else some (.quicNoError, none)

section Validate

variable {vs}

theorem serverVersionsMismatch_true (serverVersions : List UInt32) (negotiatedVersions : List V)
    (indices : List Nat) : serverVersionsMismatch vs serverVersions negotiatedVersions indices true = some true := by
  cases indices <;> rfl

/-- From index `i` of two lists of one length, with no mismatch yet, the loop reads
only within bounds and finds whether the rest of the server's list differs from the
labels of the rest of the negotiated list. -/
theorem serverVersionsMismatch_range' {serverVersions : List UInt32} {negotiatedVersions : List V}
    (hlen : serverVersions.length = negotiatedVersions.length) :
    ∀ k i, i + k = serverVersions.length →
      serverVersionsMismatch vs serverVersions negotiatedVersions (List.range' i k) false =
        some (decide (serverVersions.drop i ≠ (negotiatedVersions.drop i).map vs.createQuicVersionLabel))
  | 0, i, h => by
    rw [List.drop_eq_nil_of_le (by omega), List.drop_eq_nil_of_le (by omega)]
    rfl
  | k + 1, i, h => by
    have hs : i < serverVersions.length := by omega
    have hn : i < negotiatedVersions.length := by omega
    rw [List.range'_succ, serverVersionsMismatch, if_neg Bool.false_ne_true, List.getElem?_eq_getElem hs,
      List.getElem?_eq_getElem hn]
    dsimp only
    rw [List.drop_eq_getElem_cons hs, List.drop_eq_getElem_cons hn, List.map_cons]
    by_cases heq : serverVersions[i] = vs.createQuicVersionLabel negotiatedVersions[i]
    · rw [heq, bne_self_eq_false, serverVersionsMismatch_range' hlen k (i + 1) (by omega)]
      simp
    · rw [bne_iff_ne.2 heq, serverVersionsMismatch_true]
      simp only [ne_eq, List.cons.injEq, heq, false_and, not_false_eq_true, decide_True]

theorem validateServerHelloVersions_eq (serverVersions : List UInt32) (negotiatedVersions : List V) :
    validateServerHelloVersions vs serverVersions negotiatedVersions =
      if 0 < negotiatedVersions.length ∧ serverVersions ≠ negotiatedVersions.map vs.createQuicVersionLabel then
        some (.quicVersionNegotiationMismatch, some (serverDowngradeDetails vs serverVersions negotiatedVersions))
      else some (.quicNoError, none) := by
  unfold validateServerHelloVersions
  by_cases hnil : negotiatedVersions = []
  · simp [hnil]
  have hpos : 0 < negotiatedVersions.length := List.length_pos.2 hnil
  rw [if_neg (by simpa using hnil)]
  by_cases hlen : serverVersions.length = negotiatedVersions.length
  · rw [hlen, bne_self_eq_false, ← hlen, List.range_eq_range',
      serverVersionsMismatch_range' hlen _ 0 (Nat.zero_add _)]
    by_cases hmap : serverVersions = negotiatedVersions.map vs.createQuicVersionLabel <;> simp [hpos, hlen, hmap]
  · have hmap : serverVersions ≠ negotiatedVersions.map vs.createQuicVersionLabel :=
      fun h => hlen (by simp [h])
    rw [bne_iff_ne.2 hlen, serverVersionsMismatch_true]
    simp [hpos, hmap]

/-- From index `i` on, the loop reads only within bounds and finds whether a label of
the rest of the supported list is the client's. -/
theorem clientVersionSupported_range' {clientVersion : UInt32} {supportedVersions : List V} :
    ∀ k i, i + k = supportedVersions.length →
      clientVersionSupported vs clientVersion supportedVersions (List.range' i k) =
        some (decide (clientVersion ∈ (supportedVersions.drop i).map vs.createQuicVersionLabel))
  | 0, i, h => by
    rw [List.drop_eq_nil_of_le (by omega)]
    rfl
  | k + 1, i, h => by
    have hs : i < supportedVersions.length := by omega
    rw [List.range'_succ, clientVersionSupported, List.getElem?_eq_getElem hs, List.drop_eq_getElem_cons hs,
      List.map_cons, clientVersionSupported_range' k (i + 1) (by omega)]
    by_cases heq : clientVersion = vs.createQuicVersionLabel supportedVersions[i] <;> simp [heq]

theorem validateClientHelloVersion_eq (clientVersion : UInt32) (connectionVersion : V)
    (supportedVersions : List V) :
    validateClientHelloVersion vs clientVersion connectionVersion supportedVersions =
      if clientVersion ≠ vs.createQuicVersionLabel connectionVersion ∧
          ∃ v ∈ supportedVersions, clientVersion = vs.createQuicVersionLabel v then
        some (.quicVersionNegotiationMismatch,
          some (clientDowngradeDetails vs clientVersion connectionVersion supportedVersions))
      else some (.quicNoError, none) := by
  unfold validateClientHelloVersion
  by_cases hconn : clientVersion = vs.createQuicVersionLabel connectionVersion
  · simp [hconn]
  · have hmem : clientVersion ∈ supportedVersions.map vs.createQuicVersionLabel ↔
        ∃ v ∈ supportedVersions, clientVersion = vs.createQuicVersionLabel v := by
      simp only [List.mem_map, eq_comm]
    rw [if_pos (bne_iff_ne.2 hconn), List.range_eq_range', clientVersionSupported_range' _ 0 (Nat.zero_add _)]
    by_cases hsup : ∃ v ∈ supportedVersions, clientVersion = vs.createQuicVersionLabel v <;> simp [hconn, hsup, hmem]

end Validate

end CryptoUtils

end Quic

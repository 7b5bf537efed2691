import NaiveProxy.Quic.KeySchedule

/-!
# Handshake nonces and Retry integrity tags in `CryptoUtils`

`GenerateNonce` lays out a handshake nonce: the time in seconds as a big-endian
`uint32_t`, the server's orbit when it has 8 bytes, then random bytes up to
`kNonceSize`. The time comes first, big-endian, because the strike register relies on
nonces comparing in the order of their times.

`ValidateRetryIntegrityTag` checks the tag of a Retry packet: it writes the Retry
pseudo-packet (the original destination connection ID behind its one-byte length, then
the Retry packet without its tag) and compares the given tag with the AES-128-GCM tag
of an empty plaintext under that pseudo-packet as associated data, with the version's
Retry key and nonce.

`QuicRandom`, `Aes128GcmEncrypter` and `QuicConnectionId` are not in `src/`: the random
bytes and the tag computation are parameters. Then:

    generateNonce_spec              every nonce has `kNonceSize` bytes, starts with
                                    the time as a big-endian `uint32_t` and then the
                                    orbit, and nonces made at increasing times compare
                                    in that order byte by byte, whatever follows
    validateRetryIntegrityTag_spec  a tag is accepted exactly when it is the AEAD tag
                                    of the pseudo-packet under the version's Retry key
                                    and nonce, and the pseudo-packet gives back the
                                    connection ID and the packet
-/

namespace Quic

namespace CryptoUtils

/-! ## `GenerateNonce` -/

/-- `kNonceSize` (`crypto_protocol.h` is not in `src/`): "a 4-byte timestamp + 28
random bytes". -/
def kNonceSize : Nat := 32

/-- `GenerateNonce(now, random_generator, orbit, &nonce)`. `now` is
`now.ToUNIXSeconds()`, which the code casts to `uint32_t`; `randBytes i` is the `i`-th
byte `RandBytes` writes. -/
def generateNonce (now : Nat) (randBytes : Nat → UInt8) (orbit : List UInt8) : List UInt8 :=
  let gmtUnixTime := now % 2 ^ 32
  let timeBytes := [UInt8.ofNat (gmtUnixTime >>> 24), UInt8.ofNat (gmtUnixTime >>> 16),
    UInt8.ofNat (gmtUnixTime >>> 8), UInt8.ofNat gmtUnixTime]
  let orbitBytes := if orbit.length = 8 then orbit else []
  let bytesWritten := 4 + orbitBytes.length
  timeBytes ++ orbitBytes ++ (List.range (kNonceSize - bytesWritten)).map randBytes

/-- The four shifts and casts of `GenerateNonce` write the big-endian bytes of the time. -/
theorem timeBytes_eq_uintBytes (gmtUnixTime : Nat) :
    [UInt8.ofNat (gmtUnixTime >>> 24), UInt8.ofNat (gmtUnixTime >>> 16), UInt8.ofNat (gmtUnixTime >>> 8),
      UInt8.ofNat gmtUnixTime] = uintBytes .bigEndian 4 gmtUnixTime := by
  simp only [uintBytes, leBytes, List.reverse_cons, List.reverse_nil, List.nil_append, List.cons_append,
    List.singleton_append, Nat.shiftRight_eq_div_pow, Nat.div_div_eq_div_mul]

theorem generateNonce_eq (now : Nat) (randBytes : Nat → UInt8) (orbit : List UInt8) :
    generateNonce now randBytes orbit = uintBytes .bigEndian 4 (now % 2 ^ 32) ++
      ((if orbit.length = 8 then orbit else []) ++
        (List.range (kNonceSize - (4 + (if orbit.length = 8 then orbit else []).length))).map randBytes) := by
  rw [generateNonce, timeBytes_eq_uintBytes, List.append_assoc]

theorem length_generateNonce (now : Nat) (randBytes : Nat → UInt8) (orbit : List UInt8) :
    (generateNonce now randBytes orbit).length = kNonceSize := by
  rw [generateNonce_eq]
  split <;> simp only [List.length_append, length_uintBytes, List.length_map, List.length_range,
    List.length_nil, kNonceSize]
  omega

/-- Every nonce has `kNonceSize` bytes: the time in seconds as a big-endian `uint32_t`,
then the orbit if it has 8 bytes. Nonces made at times in order as `uint32_t` seconds
(before 2106, in the order of time) compare in that order byte by byte, as `memcmp`
compares them, whatever their orbits and random bytes. -/
theorem generateNonce_spec :
    (∀ now randBytes orbit,
      (generateNonce now randBytes orbit).length = kNonceSize ∧
        (generateNonce now randBytes orbit).take 4 = uintBytes .bigEndian 4 (now % 2 ^ 32) ∧
        (orbit.length = 8 → ((generateNonce now randBytes orbit).drop 4).take 8 = orbit)) ∧
      ∀ now₁ now₂ randBytes₁ randBytes₂ orbit₁ orbit₂, now₁ % 2 ^ 32 < now₂ % 2 ^ 32 →
        List.Lex (· < ·) (generateNonce now₁ randBytes₁ orbit₁) (generateNonce now₂ randBytes₂ orbit₂) := by
  refine ⟨fun now randBytes orbit => ⟨length_generateNonce now randBytes orbit, ?_, fun horbit => ?_⟩,
    fun now₁ now₂ _ _ _ _ hlt => ?_⟩
  · rw [generateNonce_eq, List.take_left' (length_uintBytes _ _ _)]
  · rw [generateNonce_eq, List.drop_left' (length_uintBytes _ _ _), if_pos horbit, List.take_left' horbit]
  · rw [generateNonce_eq, generateNonce_eq]
    exact lex_append_of_length_eq (lex_uintBytes_bigEndian hlt (Nat.mod_lt _ (by decide)))
      (by simp only [length_uintBytes]) _ _

/-! ## `ValidateRetryIntegrityTag` -/

/-- `kRetryIntegrityTagLength` (not in `src/`): an AES-128-GCM tag. -/
def kRetryIntegrityTagLength : Nat := 16

/-- `kDraft29RetryIntegrityKey`. -/
def kDraft29RetryIntegrityKey : List UInt8 :=
  [0xcc, 0xce, 0x18, 0x7e, 0xd0, 0x9a, 0x09, 0xd0, 0x57, 0x28, 0x15, 0x5a, 0x6c, 0xb9, 0x6b, 0xe1]

/-- `kDraft29RetryIntegrityNonce`. -/
def kDraft29RetryIntegrityNonce : List UInt8 :=
  [0xe5, 0x49, 0x30, 0xf9, 0x7f, 0x21, 0x36, 0xf0, 0x53, 0x0a, 0x8c, 0x1c]

/-- `kT051RetryIntegrityKey`. -/
def kT051RetryIntegrityKey : List UInt8 :=
  [0x2e, 0xb9, 0x61, 0xa6, 0x79, 0x56, 0xf8, 0x79, 0x53, 0x14, 0xda, 0xfb, 0x2e, 0xbc, 0x83, 0xd7]

/-- `kReservedForNegotiationRetryIntegrityKey`. -/
def kReservedForNegotiationRetryIntegrityKey : List UInt8 :=
  [0xf2, 0xcd, 0x8f, 0xe0, 0x36, 0xd0, 0x25, 0x35, 0x03, 0xe6, 0x7c, 0x7b, 0xd2, 0x44, 0xca, 0xd9]

/-- `kT051RetryIntegrityNonce`. -/
def kT051RetryIntegrityNonce : List UInt8 :=
  [0xb5, 0x0e, 0x4e, 0x53, 0x4c, 0xfc, 0x0b, 0xbb, 0x85, 0xf2, 0xf9, 0xca]

/-- `kReservedForNegotiationRetryIntegrityNonce`. -/
def kReservedForNegotiationRetryIntegrityNonce : List UInt8 :=
  [0x35, 0x9f, 0x16, 0xd1, 0xed, 0x80, 0x90, 0x8e, 0xec, 0x85, 0xc4, 0xd6]

section Retry

variable {V : Type} [DecidableEq V]

/-- `RetryIntegrityKeysForVersion(version, &key, &nonce)`: the key and nonce, or `false`
(after a `QUIC_BUG`) for a version without TLS or without Retry keys. -/
def retryIntegrityKeysForVersion (vt : QuicVersionTable V) (version : V) : Option (List UInt8 × List UInt8) :=
  if !vt.usesTls version then none
  else if version = vt.draft29 then some (kDraft29RetryIntegrityKey, kDraft29RetryIntegrityNonce)
  else if version = vt.t051 then some (kT051RetryIntegrityKey, kT051RetryIntegrityNonce)
  else if version = vt.reservedForNegotiation then
    some (kReservedForNegotiationRetryIntegrityKey, kReservedForNegotiationRetryIntegrityNonce)
  else none

/-- The Retry pseudo-packet, written into `retry_pseudo_packet[kMaxIncomingPacketSize +
256]`: `WriteLengthPrefixedConnectionId` (the length, a `uint8_t` of `QuicConnectionId`,
as one byte, then the ID) and `WriteStringPiece(retry_without_tag)`. -/
def retryPseudoPacket (maxIncomingPacketSize : Nat) (originalConnectionId retryWithoutTag : List UInt8) :
    Option QuicDataWriter :=
  ({ capacity := maxIncomingPacketSize + 256, endianness := .bigEndian, written := [] } : QuicDataWriter).writeUInt8
      (UInt8.ofNat originalConnectionId.length) >>= fun writer =>
    writer.writeBytes originalConnectionId >>= fun writer => writer.writeStringPiece retryWithoutTag

/-- `ValidateRetryIntegrityTag(version, original_connection_id, retry_without_tag,
integrity_tag)`. `aes128GcmTag key nonce associatedData` is what `crypter.SetKey(key)`
and `crypter.Encrypt(nonce, associated_data, "", computed_integrity_tag)` leave in the
tag buffer, or `none` where `Encrypt` fails; `CRYPTO_memcmp` compares the two tags. -/
def validateRetryIntegrityTag (aes128GcmTag : (key nonce associatedData : List UInt8) → Option (List UInt8))
    (maxIncomingPacketSize : Nat) (vt : QuicVersionTable V) (version : V)
    (originalConnectionId retryWithoutTag integrityTag : List UInt8) : Bool :=
  if integrityTag.length ≠ kRetryIntegrityTagLength then false
  else
    match retryPseudoPacket maxIncomingPacketSize originalConnectionId retryWithoutTag with
    | none => false
    | some writer =>
      match retryIntegrityKeysForVersion vt version with
      | none => false
      | some (key, nonce) =>
        match aes128GcmTag key nonce writer.written with
        | none => false
        | some computedIntegrityTag => computedIntegrityTag == integrityTag

theorem retryPseudoPacket_eq (maxIncomingPacketSize : Nat) (originalConnectionId retryWithoutTag : List UInt8) :
    retryPseudoPacket maxIncomingPacketSize originalConnectionId retryWithoutTag =
      if maxIncomingPacketSize + 256 < 1 + originalConnectionId.length + retryWithoutTag.length then none
      else some
        { capacity := maxIncomingPacketSize + 256
          endianness := .bigEndian
          written := UInt8.ofNat originalConnectionId.length :: (originalConnectionId ++ retryWithoutTag) } := by
  simp only [retryPseudoPacket, QuicDataWriter.writeUInt8, QuicDataWriter.writeStringPiece,
    QuicDataWriter.writeBytes_bind_writeBytes]
  simp only [QuicDataWriter.writeBytes, QuicDataWriter.remaining, List.length_nil, Nat.sub_zero, List.length_cons,
    List.length_append, List.nil_append, List.singleton_append]
  congr 1
  simp only [eq_iff_iff]
  omega

/-- The length byte makes the pseudo-packet give back the connection ID (of fewer than
256 bytes, as a `QuicConnectionId` has) and the Retry packet. -/
theorem retryPseudoPacket_inj {maxIncomingPacketSize : Nat} {originalConnectionId₁ retryWithoutTag₁
    originalConnectionId₂ retryWithoutTag₂ : List UInt8} {writer₁ writer₂ : QuicDataWriter}
    (hlen₁ : originalConnectionId₁.length < 256) (hlen₂ : originalConnectionId₂.length < 256)
    (h₁ : retryPseudoPacket maxIncomingPacketSize originalConnectionId₁ retryWithoutTag₁ = some writer₁)
    (h₂ : retryPseudoPacket maxIncomingPacketSize originalConnectionId₂ retryWithoutTag₂ = some writer₂)
    (hw : writer₁.written = writer₂.written) :
    originalConnectionId₁ = originalConnectionId₂ ∧ retryWithoutTag₁ = retryWithoutTag₂ := by
  rw [retryPseudoPacket_eq] at h₁ h₂
  split at h₁ <;> split at h₂ <;> simp only [Option.some.injEq, reduceCtorEq] at h₁ h₂
  subst h₁ h₂
  obtain ⟨hbyte, hrest⟩ := List.cons_eq_cons.1 hw
  have hlen : originalConnectionId₁.length = originalConnectionId₂.length := by
    have hmod : originalConnectionId₁.length % 256 = originalConnectionId₂.length % 256 := congrArg UInt8.toNat hbyte
    rwa [Nat.mod_eq_of_lt hlen₁, Nat.mod_eq_of_lt hlen₂] at hmod
  exact List.append_inj hrest hlen

/-- A Retry tag is accepted exactly when it has 16 bytes, the pseudo-packet fits the
buffer, and the tag is the AES-128-GCM tag of the pseudo-packet under the version's
Retry key and nonce; so a version without Retry keys accepts no tag. The pseudo-packet
gives back the original connection ID and the Retry packet, so a tag is checked over
both of them. -/
theorem validateRetryIntegrityTag_spec
    (aes128GcmTag : (key nonce associatedData : List UInt8) → Option (List UInt8))
    (maxIncomingPacketSize : Nat) (vt : QuicVersionTable V) (version : V) :
    (∀ originalConnectionId retryWithoutTag integrityTag,
      validateRetryIntegrityTag aes128GcmTag maxIncomingPacketSize vt version originalConnectionId
          retryWithoutTag integrityTag = true ↔
        integrityTag.length = kRetryIntegrityTagLength ∧
          1 + originalConnectionId.length + retryWithoutTag.length ≤ maxIncomingPacketSize + 256 ∧
          ∃ key nonce, retryIntegrityKeysForVersion vt version = some (key, nonce) ∧
            aes128GcmTag key nonce (UInt8.ofNat originalConnectionId.length ::
              (originalConnectionId ++ retryWithoutTag)) = some integrityTag) ∧
      ∀ originalConnectionId₁ retryWithoutTag₁ originalConnectionId₂ retryWithoutTag₂ writer₁ writer₂,
        originalConnectionId₁.length < 256 → originalConnectionId₂.length < 256 →
        retryPseudoPacket maxIncomingPacketSize originalConnectionId₁ retryWithoutTag₁ = some writer₁ →
        retryPseudoPacket maxIncomingPacketSize originalConnectionId₂ retryWithoutTag₂ = some writer₂ →
        writer₁.written = writer₂.written →
        originalConnectionId₁ = originalConnectionId₂ ∧ retryWithoutTag₁ = retryWithoutTag₂ := by
  refine ⟨fun originalConnectionId retryWithoutTag integrityTag => ?_, fun _ _ _ _ _ _ => retryPseudoPacket_inj⟩
  unfold validateRetryIntegrityTag
  rw [retryPseudoPacket_eq]
  by_cases htag : integrityTag.length = kRetryIntegrityTagLength
  · by_cases hfit : maxIncomingPacketSize + 256 < 1 + originalConnectionId.length + retryWithoutTag.length
    · simp only [htag, hfit, ne_eq, not_true_eq_false, if_false, if_true, Bool.false_eq_true, true_and, false_iff]
      omega
    · simp only [htag, hfit, ne_eq, not_true_eq_false, if_false, true_and, Nat.not_lt.1 hfit]
      rcases retryIntegrityKeysForVersion vt version with _ | ⟨key, nonce⟩
      · simp
      · cases hres : aes128GcmTag key nonce (UInt8.ofNat originalConnectionId.length ::
          (originalConnectionId ++ retryWithoutTag)) <;> simp [hres, and_assoc]
  · simp [htag]

end Retry

end CryptoUtils

end Quic

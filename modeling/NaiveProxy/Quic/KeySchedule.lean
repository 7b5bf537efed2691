import NaiveProxy.Quic.CryptoUtils

/-!
# The key schedule of `CryptoUtils`: labels, key updates, initial keys, `DeriveKeys`

`HkdfExpandLabel` builds the `HkdfLabel` structure of TLS 1.3 with BoringSSL's `CBB`:
`out_len` as a `uint16_t`, the label behind `"tls13 "` and a one-byte length, and an
empty context; that is the info it hands to HKDF-Expand. A key update and the initial
obfuscators' keys are expansions of a secret under fixed labels. `DeriveKeys` gives
each side's crypters the client's or the server's half of what `QuicHKDF` derives,
by perspective and diversification mode.

HKDF, `QuicHKDF`, the crypter classes and `bytestring.h` are not in `src/`; they are
parameters, held where a result needs it to the interface their callers rely on.
Then:

    quicHkdfLabel_spec      a label is built exactly when it has at most 249 bytes,
                            a built info gives back the label and the length
                            modulo 2^16, and it is the info HKDF-Expand is handed
    length_generateNextKeyPhaseSecret_iterate
                            over any number of key updates the secret keeps its
                            length, or from the first on is empty when it is longer
                            than HKDF can expand
    createInitialObfuscators_agree
                            the client's and the server's initial crypters are set
                            up crosswise from two secrets of distinct HKDF infos
    deriveKeys_agree        `DeriveKeys` succeeds exactly for the diversification
                            modes each side supports; then the client's encrypter
                            and the server's decrypter take the same keys, and the
                            server's encrypter takes the diversification of what
                            the client's decrypter holds
-/

namespace Quic

namespace CryptoUtils

/-! ## `HkdfExpandLabel` -/

/-- The bytes of an ASCII string. -/
def asciiBytes (text : String) : List UInt8 := text.toList.map fun c => c.toNat.toUInt8

/-- `label_prefix`, without its NUL. -/
def labelPrefix : List UInt8 := asciiBytes "tls13 "

/-- The bytes the `CBB` of `HkdfExpandLabel` holds after `CBB_flush`: `out_len` as a
big-endian `uint16_t`, the length byte and bytes of `"tls13 " ‖ label`, and a zero-length
context; `none` where a `CBB_*` call fails, which is when the prefixed label does not
fit its one-byte length (`bytestring.h` is not in `src/`; this is its interface). -/
def quicHkdfLabel (label : List UInt8) (outLen : Nat) : Option (List UInt8) :=
  let innerLabel := labelPrefix ++ label
  if innerLabel.length ≤ 255 then
    some (uintBytes .bigEndian 2 outLen ++ UInt8.ofNat innerLabel.length :: (innerLabel ++ [0]))
  else none

/-- `HkdfExpandLabel(prf, secret, label, out_len)`: HKDF-Expand of the secret under the
label's info, or empty where building the label or HKDF fails. `hkdfExpand` is
`HKDF_expand` under the PRF. -/
def hkdfExpandLabel (hkdfExpand : (secret info : List UInt8) → (outLen : Nat) → Option (List UInt8))
    (secret label : List UInt8) (outLen : Nat) : List UInt8 :=
  match quicHkdfLabel label outLen with
  | some info => (hkdfExpand secret info outLen).getD []
  | none => []

/-- What the callers of `HKDF_expand` rely on (BoringSSL is not in `src/`): it succeeds
exactly up to 255 blocks of the PRF's digest (RFC 5869), and then fills the `out_len`
bytes asked for. -/
structure HkdfExpandContract (hkdfExpand : List UInt8 → List UInt8 → Nat → Option (List UInt8))
    (digestSize : Nat) : Prop where
  isSome_iff : ∀ secret info outLen, (hkdfExpand secret info outLen).isSome ↔ outLen ≤ 255 * digestSize
  length_eq : ∀ secret info outLen out, hkdfExpand secret info outLen = some out → out.length = outLen

@[simp] theorem length_labelPrefix : labelPrefix.length = 6 := rfl

theorem quicHkdfLabel_mod (label : List UInt8) (outLen : Nat) :
    quicHkdfLabel label (outLen % 2 ^ 16) = quicHkdfLabel label outLen := by
  simp only [quicHkdfLabel, show (2 : Nat) ^ 16 = 256 ^ 2 from rfl, uintBytes_mod]

theorem quicHkdfLabel_eq_none_iff {label : List UInt8} {outLen : Nat} :
    quicHkdfLabel label outLen = none ↔ 249 < label.length := by
  dsimp only [quicHkdfLabel]
  rw [List.length_append, length_labelPrefix]
  split
  · simp only [reduceCtorEq, false_iff]
    omega
  · simp only [true_iff]
    omega

/-- A built info gives back the label and the length modulo 2^16. -/
theorem quicHkdfLabel_inj {label₁ label₂ info : List UInt8} {outLen₁ outLen₂ : Nat}
    (h₁ : quicHkdfLabel label₁ outLen₁ = some info) (h₂ : quicHkdfLabel label₂ outLen₂ = some info) :
    label₁ = label₂ ∧ outLen₁ % 2 ^ 16 = outLen₂ % 2 ^ 16 := by
  dsimp only [quicHkdfLabel] at h₁ h₂
  split at h₁ <;> split at h₂ <;> simp only [Option.some.injEq, reduceCtorEq] at h₁ h₂
  rw [← h₂] at h₁
  obtain ⟨hlen, hrest⟩ := List.append_inj h₁ (by simp)
  obtain ⟨-, hinner⟩ := List.cons_eq_cons.1 hrest
  rw [show (2 : Nat) ^ 16 = 256 ^ 2 from rfl]
  exact ⟨List.append_cancel_left (List.append_cancel_right hinner), uintBytes_inj hlen⟩

theorem hkdfExpandLabel_of_quicHkdfLabel {hkdfExpand : List UInt8 → List UInt8 → Nat → Option (List UInt8)}
    {secret label info : List UInt8} {outLen : Nat} (h : quicHkdfLabel label outLen = some info) :
    hkdfExpandLabel hkdfExpand secret label outLen = (hkdfExpand secret info outLen).getD [] := by
  rw [hkdfExpandLabel, h]

/-- A label of at most 249 bytes is built, and its info gives back the label and the
length modulo 2^16; a longer one is refused. `HkdfExpandLabel` returns HKDF-Expand's
output on exactly that info, and nothing for a refused label. -/
theorem quicHkdfLabel_spec :
    (∀ label outLen, quicHkdfLabel label outLen = none ↔ 249 < label.length) ∧
      (∀ label₁ label₂ outLen₁ outLen₂ info, quicHkdfLabel label₁ outLen₁ = some info →
        (quicHkdfLabel label₂ outLen₂ = some info ↔ label₁ = label₂ ∧ outLen₁ % 2 ^ 16 = outLen₂ % 2 ^ 16)) ∧
      (∀ hkdfExpand secret label outLen info, quicHkdfLabel label outLen = some info →
        hkdfExpandLabel hkdfExpand secret label outLen = (hkdfExpand secret info outLen).getD []) ∧
      ∀ hkdfExpand secret label outLen, 249 < label.length →
        hkdfExpandLabel hkdfExpand secret label outLen = [] := by
  refine ⟨fun _ _ => quicHkdfLabel_eq_none_iff, fun label₁ label₂ outLen₁ outLen₂ info h₁ =>
    ⟨quicHkdfLabel_inj h₁, ?_⟩, fun _ _ _ _ _ => hkdfExpandLabel_of_quicHkdfLabel,
    fun _ _ _ _ hlong => by rw [hkdfExpandLabel, quicHkdfLabel_eq_none_iff.2 hlong]⟩
  rintro ⟨rfl, hmod⟩
  rw [← quicHkdfLabel_mod, ← hmod, quicHkdfLabel_mod, h₁]

/-! ## Key updates -/

/-- `GenerateNextKeyPhaseSecret(prf, current_secret)`. -/
def generateNextKeyPhaseSecret (hkdfExpand : List UInt8 → List UInt8 → Nat → Option (List UInt8))
    (currentSecret : List UInt8) : List UInt8 :=
  hkdfExpandLabel hkdfExpand currentSecret (asciiBytes "quic ku") currentSecret.length

section KeyUpdate

variable {hkdfExpand : List UInt8 → List UInt8 → Nat → Option (List UInt8)} {digestSize : Nat}

theorem length_generateNextKeyPhaseSecret (hc : HkdfExpandContract hkdfExpand digestSize)
    (secret : List UInt8) :
    (generateNextKeyPhaseSecret hkdfExpand secret).length =
      if secret.length ≤ 255 * digestSize then secret.length else 0 := by
  have hlabel : quicHkdfLabel (asciiBytes "quic ku") secret.length ≠ none := by
    rw [Ne, quicHkdfLabel_eq_none_iff]
    decide
  obtain ⟨info, hinfo⟩ := Option.ne_none_iff_exists'.1 hlabel
  rw [generateNextKeyPhaseSecret, hkdfExpandLabel, hinfo]
  dsimp only
  by_cases hle : secret.length ≤ 255 * digestSize
  · obtain ⟨out, hout⟩ := Option.isSome_iff_exists.1 ((hc.isSome_iff _ _ _).2 hle)
    rw [if_pos hle, hout, Option.getD_some, hc.length_eq _ _ _ _ hout]
  · rw [if_neg hle, Option.not_isSome_iff_eq_none.1 (mt (hc.isSome_iff _ _ _).1 hle), Option.getD_none,
      List.length_nil]

/-- Over any number of key updates the secret keeps its length; a secret longer than
255 blocks of the digest is empty from the first update on. -/
theorem length_generateNextKeyPhaseSecret_iterate (hc : HkdfExpandContract hkdfExpand digestSize)
    (secret : List UInt8) (updates : Nat) :
    ((generateNextKeyPhaseSecret hkdfExpand)^[updates + 1] secret).length =
      if secret.length ≤ 255 * digestSize then secret.length else 0 := by
  induction updates with
  | zero => exact length_generateNextKeyPhaseSecret hc secret
  | succ updates ih =>
    rw [Function.iterate_succ_apply', length_generateNextKeyPhaseSecret hc, ih]
    split <;> simp_all

end KeyUpdate

/-- An HKDF that expands to zeros, up to 255 blocks of 32 bytes. -/
def zeroHkdfExpand (_ _ : List UInt8) (outLen : Nat) : Option (List UInt8) :=
  if outLen ≤ 255 * 32 then some (List.replicate outLen 0) else none

theorem zeroHkdfExpand_contract : HkdfExpandContract zeroHkdfExpand 32 where
  isSome_iff _ _ _ := by unfold zeroHkdfExpand; split <;> simp_all
  length_eq _ _ outLen out h := by
    unfold zeroHkdfExpand at h
    split at h
    · cases h
      exact List.length_replicate _ _
    · cases h

theorem length_generateNextKeyPhaseSecret_iterate_zero :
    HkdfExpandContract zeroHkdfExpand 32 ∧
      ((generateNextKeyPhaseSecret zeroHkdfExpand)^[3] (List.replicate 32 7)).length =
        if (List.replicate 32 (7 : UInt8)).length ≤ 255 * 32 then (List.replicate 32 (7 : UInt8)).length else 0 :=
  ⟨zeroHkdfExpand_contract, length_generateNextKeyPhaseSecret_iterate zeroHkdfExpand_contract _ 2⟩

/-! ## Crypters -/

/-- `Perspective`. -/
inductive Perspective
  | isServer
  | isClient
deriving DecidableEq, Repr

/-- The interface of a crypter class (`quic_crypter.h` and the AEAD classes are not in
`src/`): the sizes it reports, and setters that return whether they succeeded, with
the crypter after the call. `setNoncePrefixOrIV` is for the connection's version. -/
structure QuicCrypter (C : Type) where
  keySize : Nat
  noncePrefixSize : Nat
  ivSize : Nat
  setKey : C → List UInt8 → Bool × C
  setPreliminaryKey : C → List UInt8 → Bool × C
  setIV : C → List UInt8 → Bool × C
  setNoncePrefixOrIV : C → List UInt8 → Bool × C
  setHeaderProtectionKey : C → List UInt8 → Bool × C

namespace QuicCrypter

variable {C : Type} (cr : QuicCrypter C)

/-- A setter's result as `DeriveKeys` reads it: the crypter, or `none` where it failed. -/
def succeeded (result : Bool × C) : Option C := if result.1 then some result.2 else none

/-- The three setters `DeriveKeys` calls on one crypter, in order, stopping at the first
that fails: the key (through `SetKey` or `SetPreliminaryKey`), the nonce prefix or IV,
and the header-protection key. -/
def setKeys (setKey : C → List UInt8 → Bool × C) (c : C) (key iv hpKey : List UInt8) : Option C := do
  let c ← succeeded (setKey c key)
  let c ← succeeded (cr.setNoncePrefixOrIV c iv)
  succeeded (cr.setHeaderProtectionKey c hpKey)

/-- What `DeriveKeys` relies on of a crypter: each setter takes bytes of the size the
crypter reports, the IV for a version with initial obfuscators and the nonce prefix
otherwise. -/
structure Accepts (usesInitialObfuscators : Bool) : Prop where
  setKey : ∀ c key, key.length = cr.keySize → (cr.setKey c key).1 = true
  setPreliminaryKey : ∀ c key, key.length = cr.keySize → (cr.setPreliminaryKey c key).1 = true
  setNoncePrefixOrIV : ∀ c iv, iv.length = (if usesInitialObfuscators then cr.ivSize else cr.noncePrefixSize) →
    (cr.setNoncePrefixOrIV c iv).1 = true
  setHeaderProtectionKey : ∀ c key, key.length = cr.keySize → (cr.setHeaderProtectionKey c key).1 = true

variable {cr}

theorem setKeys_isSome {usesInitialObfuscators : Bool} (hacc : cr.Accepts usesInitialObfuscators)
    {setKey : C → List UInt8 → Bool × C} (hkey : ∀ c key, key.length = cr.keySize → (setKey c key).1 = true)
    (c : C) {key iv hpKey : List UInt8} (hk : key.length = cr.keySize)
    (hiv : iv.length = if usesInitialObfuscators then cr.ivSize else cr.noncePrefixSize)
    (hhp : hpKey.length = cr.keySize) : (cr.setKeys setKey c key iv hpKey).isSome := by
  simp only [setKeys, succeeded, hkey c key hk, if_true, Option.bind_eq_bind, Option.some_bind,
    hacc.setNoncePrefixOrIV _ iv hiv, hacc.setHeaderProtectionKey _ hpKey hhp, Option.isSome_some]

end QuicCrypter

/-! ## `CreateInitialObfuscators` -/

/-- The crypter `CreateInitialObfuscators` puts in a `CrypterPair`: a null crypter of a
perspective, or an AES-128-GCM one. -/
inductive InitialCrypter (C : Type)
  | null (perspective : Perspective)
  | aes128Gcm (crypter : C)

section Initial

variable {C E D V : Type} (hkdfExpand : List UInt8 → List UInt8 → Nat → Option (List UInt8))

/-- `SetKeyAndIV(prf, pp_secret, crypter)`; the setters' results are not read. -/
def setKeyAndIV (cr : QuicCrypter C) (crypter : C) (ppSecret : List UInt8) : C :=
  let key := hkdfExpandLabel hkdfExpand ppSecret (asciiBytes "quic key") cr.keySize
  let iv := hkdfExpandLabel hkdfExpand ppSecret (asciiBytes "quic iv") cr.ivSize
  (cr.setIV (cr.setKey crypter key).2 iv).2

/-- `GenerateHeaderProtectionKey(prf, pp_secret, out_len)`. -/
def generateHeaderProtectionKey (ppSecret : List UInt8) (outLen : Nat) : List UInt8 :=
  hkdfExpandLabel hkdfExpand ppSecret (asciiBytes "quic hp") outLen

/-- `InitializeCrypterSecrets(prf, pp_secret, crypter)`. -/
def initializeCrypterSecrets (cr : QuicCrypter C) (crypter : C) (ppSecret : List UInt8) : C :=
  (cr.setHeaderProtectionKey (setKeyAndIV hkdfExpand cr crypter ppSecret)
    (generateHeaderProtectionKey hkdfExpand ppSecret cr.keySize)).2

/-- The versions `InitialSaltForVersion` and `RetryIntegrityKeysForVersion` name, and
the two properties of a version they read (`quic_versions.h` is not in `src/`). -/
structure QuicVersionTable (V : Type) where
  draft29 : V
  t051 : V
  q050 : V
  reservedForNegotiation : V
  usesTls : V → Bool
  usesInitialObfuscators : V → Bool

/-- `kDraft29InitialSalt`. -/
def kDraft29InitialSalt : List UInt8 :=
  [0xaf, 0xbf, 0xec, 0x28, 0x99, 0x93, 0xd2, 0x4c, 0x9e, 0x97, 0x86, 0xf1, 0x9c, 0x61, 0x11, 0xe0, 0x43, 0x90,
    0xa8, 0x99]

/-- `kQ050Salt`. -/
def kQ050Salt : List UInt8 :=
  [0x50, 0x45, 0x74, 0xef, 0xd0, 0x66, 0xfe, 0x2f, 0x9d, 0x94, 0x5c, 0xfc, 0xdb, 0xd3, 0xa7, 0xf0, 0xd3, 0xb5,
    0x6b, 0x45]

/-- `kT051Salt`. -/
def kT051Salt : List UInt8 :=
  [0x7a, 0x4e, 0xde, 0xf4, 0xe7, 0xcc, 0xee, 0x5f, 0xa4, 0x50, 0x6c, 0x19, 0x12, 0x4f, 0xc8, 0xcc, 0xda, 0x6e,
    0x03, 0x3d]

/-- `kReservedForNegotiationSalt`. -/
def kReservedForNegotiationSalt : List UInt8 :=
  [0xf9, 0x64, 0xbf, 0x45, 0x3a, 0x1f, 0x1b, 0x80, 0xa5, 0xf8, 0x82, 0x03, 0x77, 0xd4, 0xaf, 0xca, 0x58, 0x0e,
    0xe7, 0x43]

/-- `InitialSaltForVersion(version, &out_len)`: an unknown version hits a `QUIC_BUG`,
which only logs, and gets the reserved version's salt. -/
def initialSaltForVersion [DecidableEq V] (vt : QuicVersionTable V) (version : V) : List UInt8 :=
  if version = vt.draft29 then kDraft29InitialSalt
  else if version = vt.t051 then kT051Salt
  else if version = vt.q050 then kQ050Salt
  else if version = vt.reservedForNegotiation then kReservedForNegotiationSalt
  else kReservedForNegotiationSalt

/-- `CreateInitialObfuscators(perspective, version, connection_id, crypters)`: null
crypters for a version without initial obfuscators; otherwise the handshake secret is
`HKDF_extract` of the connection ID under the version's salt, each direction's secret
its expansion to `EVP_MD_size` bytes under `"client in"` or `"server in"`, and new
AES-128-GCM crypters (`e` and `d`) are initialised from them. The failure of
`HKDF_extract`, which `QUIC_BUG_IF` only logs, is left out. -/
def createInitialObfuscators [DecidableEq V] (hkdfExtract : (secret salt : List UInt8) → List UInt8)
    (digestSize : Nat) (enc : QuicCrypter E) (dec : QuicCrypter D) (e : E) (d : D) (vt : QuicVersionTable V)
    (perspective : Perspective) (version : V) (connectionId : List UInt8) :
    InitialCrypter E × InitialCrypter D :=
  if !vt.usesInitialObfuscators version then (.null perspective, .null perspective)
  else
    let handshakeSecret := hkdfExtract connectionId (initialSaltForVersion vt version)
    let clientLabel := asciiBytes "client in"
    let serverLabel := asciiBytes "server in"
    let (encryptionLabel, decryptionLabel) := match perspective with
      | .isClient => (clientLabel, serverLabel)
      | .isServer => (serverLabel, clientLabel)
    let encryptionSecret := hkdfExpandLabel hkdfExpand handshakeSecret encryptionLabel digestSize
    let decryptionSecret := hkdfExpandLabel hkdfExpand handshakeSecret decryptionLabel digestSize
    (.aes128Gcm (initializeCrypterSecrets hkdfExpand enc e encryptionSecret),
      .aes128Gcm (initializeCrypterSecrets hkdfExpand dec d decryptionSecret))

theorem quicHkdfLabel_client_in_ne_server_in (outLen : Nat) :
    ∃ clientInfo serverInfo, quicHkdfLabel (asciiBytes "client in") outLen = some clientInfo ∧
      quicHkdfLabel (asciiBytes "server in") outLen = some serverInfo ∧ clientInfo ≠ serverInfo := by
  obtain ⟨clientInfo, hclient⟩ := Option.ne_none_iff_exists'.1
    (mt quicHkdfLabel_eq_none_iff.1 (by decide) : quicHkdfLabel (asciiBytes "client in") outLen ≠ none)
  obtain ⟨serverInfo, hserver⟩ := Option.ne_none_iff_exists'.1
    (mt quicHkdfLabel_eq_none_iff.1 (by decide) : quicHkdfLabel (asciiBytes "server in") outLen ≠ none)
  refine ⟨clientInfo, serverInfo, hclient, hserver, fun heq => ?_⟩
  rw [heq] at hclient
  exact absurd (quicHkdfLabel_inj hclient hserver).1 (by decide)

/-- For a version with initial obfuscators, the client and the server set up their
crypters crosswise from two secrets: the client's encrypter and the server's decrypter
from the expansion of the handshake secret (`HKDF_extract` of the connection ID under
the version's salt) under the `"client in"` info, the server's encrypter and the
client's decrypter from its expansion under the `"server in"` info, and the two infos
differ. For any other version each side gets null crypters of its own perspective. -/
theorem createInitialObfuscators_agree [DecidableEq V] (hkdfExtract : (secret salt : List UInt8) → List UInt8)
    (digestSize : Nat) (enc : QuicCrypter E) (dec : QuicCrypter D) (e : E) (d : D) (vt : QuicVersionTable V)
    (version : V) (connectionId : List UInt8) :
    let create := createInitialObfuscators hkdfExpand hkdfExtract digestSize enc dec e d vt
    (vt.usesInitialObfuscators version = false →
      create .isClient version connectionId = (.null .isClient, .null .isClient) ∧
        create .isServer version connectionId = (.null .isServer, .null .isServer)) ∧
      (vt.usesInitialObfuscators version = true →
        ∃ clientInfo serverInfo, clientInfo ≠ serverInfo ∧
          quicHkdfLabel (asciiBytes "client in") digestSize = some clientInfo ∧
          quicHkdfLabel (asciiBytes "server in") digestSize = some serverInfo ∧
          let handshakeSecret := hkdfExtract connectionId (initialSaltForVersion vt version)
          let clientSecret := (hkdfExpand handshakeSecret clientInfo digestSize).getD []
          let serverSecret := (hkdfExpand handshakeSecret serverInfo digestSize).getD []
          create .isClient version connectionId =
              (.aes128Gcm (initializeCrypterSecrets hkdfExpand enc e clientSecret),
                .aes128Gcm (initializeCrypterSecrets hkdfExpand dec d serverSecret)) ∧
            create .isServer version connectionId =
              (.aes128Gcm (initializeCrypterSecrets hkdfExpand enc e serverSecret),
                .aes128Gcm (initializeCrypterSecrets hkdfExpand dec d clientSecret))) := by
  intro create
  refine ⟨fun hnull => ?_, fun hobf => ?_⟩
  · simp only [create, createInitialObfuscators, hnull, Bool.not_false, if_true, and_self]
  · obtain ⟨clientInfo, serverInfo, hclient, hserver, hne⟩ := quicHkdfLabel_client_in_ne_server_in digestSize
    refine ⟨clientInfo, serverInfo, hne, hclient, hserver, ?_⟩
    simp only [create, createInitialObfuscators, hobf, Bool.not_true, if_false, hkdfExpandLabel, hclient, hserver,
      Bool.false_eq_true, and_self]

end Initial

/-! ## `DeriveKeys` -/

/-- The mode of a `Diversification`, with the nonce of `NOW`. -/
inductive Diversification
  | never
  | pending
  | now (nonce : List UInt8)
deriving DecidableEq, Repr

/-- The combinations `DeriveKeys`'s comment names: both sides may never diversify, the
client's keys may wait for diversification, and the server may diversify at once. -/
def Diversification.supportedBy : Diversification → Perspective → Bool
  | .never, _ => true
  | .pending, perspective => perspective == .isClient
  | .now _, perspective => perspective == .isServer

/-- The keys `QuicHKDF(secret, salt, info, key_bytes_to_generate, iv_bytes_to_generate,
subkey_secret_bytes_to_generate)` derives (`quic_hkdf.h` is not in `src/`). -/
structure QuicHkdfKeys where
  clientWriteKey : List UInt8
  serverWriteKey : List UInt8
  clientWriteIv : List UInt8
  serverWriteIv : List UInt8
  clientHpKey : List UInt8
  serverHpKey : List UInt8
  subkeySecret : List UInt8
deriving DecidableEq, Repr

/-- The sizes `QuicHKDF` gives its keys: its keys are views of the lengths it was asked
for into its output. -/
def QuicHkdfKeys.Sized (keys : QuicHkdfKeys) (keyBytes ivBytes subkeySecretBytes : Nat) : Prop :=
  keys.clientWriteKey.length = keyBytes ∧ keys.serverWriteKey.length = keyBytes ∧
    keys.clientWriteIv.length = ivBytes ∧ keys.serverWriteIv.length = ivBytes ∧
    keys.clientHpKey.length = keyBytes ∧ keys.serverHpKey.length = keyBytes ∧
    keys.subkeySecret.length = subkeySecretBytes

section DeriveKeys

variable {E D : Type} (host : ByteOrder) (width : Nat) (usesInitialObfuscators : Bool)
  (enc : QuicCrypter E) (dec : QuicCrypter D)
  (quicHkdf : (secret salt info : List UInt8) → (keyBytes ivBytes subkeySecretBytes : Nat) → QuicHkdfKeys)
  (diversifyPreliminaryKey : (preliminaryKey noncePrefix nonce : List UInt8) → (keySize noncePrefixSize : Nat) →
    List UInt8 × List UInt8)

/-- The `switch` of `DeriveKeys` on the diversification mode, over the keys `QuicHKDF`
derived: the crypters after their setters, or `none` where a setter fails or the mode
is one the perspective does not support (a `QUIC_BUG`). -/
def setCrypters (e : E) (d : D) (hkdf : QuicHkdfKeys) (keyBytes noncePrefixBytes : Nat)
    (perspective : Perspective) (diversification : Diversification) : Option (E × D) :=
  match diversification, perspective with
  | .never, .isServer => do
    let e ← enc.setKeys enc.setKey e hkdf.serverWriteKey hkdf.serverWriteIv hkdf.serverHpKey
    let d ← dec.setKeys dec.setKey d hkdf.clientWriteKey hkdf.clientWriteIv hkdf.clientHpKey
    pure (e, d)
  | .never, .isClient => do
    let e ← enc.setKeys enc.setKey e hkdf.clientWriteKey hkdf.clientWriteIv hkdf.clientHpKey
    let d ← dec.setKeys dec.setKey d hkdf.serverWriteKey hkdf.serverWriteIv hkdf.serverHpKey
    pure (e, d)
  | .pending, .isServer => none
  | .pending, .isClient => do
    let e ← enc.setKeys enc.setKey e hkdf.clientWriteKey hkdf.clientWriteIv hkdf.clientHpKey
    let d ← dec.setKeys dec.setPreliminaryKey d hkdf.serverWriteKey hkdf.serverWriteIv hkdf.serverHpKey
    pure (e, d)
  | .now _, .isClient => none
  | .now diversificationNonce, .isServer => do
    let diversified := diversifyPreliminaryKey hkdf.serverWriteKey hkdf.serverWriteIv diversificationNonce
      keyBytes noncePrefixBytes
    let d ← dec.setKeys dec.setKey d hkdf.clientWriteKey hkdf.clientWriteIv hkdf.clientHpKey
    let e ← enc.setKeys enc.setKey e diversified.1 diversified.2 hkdf.serverHpKey
    pure (e, d)

/-- `DeriveKeys(version, premaster_secret, aead, client_nonce, server_nonce,
pre_shared_key, hkdf_input, perspective, diversification, crypters, subkey_secret)`:
the crypters that `QuicEncrypter::Create` and `QuicDecrypter::Create` made (`e` and
`d`) after their setters, and the subkey secret where one is asked for; `none` where it
returns false. -/
def deriveKeys (e : E) (d : D) (premasterSecret clientNonce serverNonce preSharedKey hkdfInput : List UInt8)
    (perspective : Perspective) (diversification : Diversification) (wantsSubkeySecret : Bool) :
    Option (E × D × Option (List UInt8)) := do
  let premasterSecret ← deriveKeysPremasterSecret host width preSharedKey premasterSecret
  let keyBytes := enc.keySize
  let noncePrefixBytes := if usesInitialObfuscators then enc.ivSize else enc.noncePrefixSize
  let subkeySecretBytes := if wantsSubkeySecret then premasterSecret.length else 0
  let nonce := if serverNonce.isEmpty then clientNonce else clientNonce ++ serverNonce
  let hkdf := quicHkdf premasterSecret nonce hkdfInput keyBytes noncePrefixBytes subkeySecretBytes
  let crypters ← setCrypters enc dec diversifyPreliminaryKey e d hkdf keyBytes noncePrefixBytes perspective
    diversification
  pure (crypters.1, crypters.2, if wantsSubkeySecret then some hkdf.subkeySecret else none)

variable {host width usesInitialObfuscators enc dec quicHkdf diversifyPreliminaryKey}

/-- What `DeriveKeys` returns: the crypters `setCrypters` sets from what `QuicHKDF`
derives over the premaster secret, with its subkey secret. -/
theorem deriveKeys_eq_some {e e' : E} {d d' : D}
    {premasterSecret clientNonce serverNonce preSharedKey hkdfInput : List UInt8} {perspective : Perspective}
    {diversification : Diversification} {wantsSubkeySecret : Bool} {subkeySecret : Option (List UInt8)} :
    deriveKeys host width usesInitialObfuscators enc dec quicHkdf diversifyPreliminaryKey e d premasterSecret
        clientNonce serverNonce preSharedKey hkdfInput perspective diversification wantsSubkeySecret =
        some (e', d', subkeySecret) ↔
      ∃ secret, deriveKeysPremasterSecret host width preSharedKey premasterSecret = some secret ∧
        let hkdf := quicHkdf secret (if serverNonce.isEmpty then clientNonce else clientNonce ++ serverNonce)
          hkdfInput enc.keySize (if usesInitialObfuscators then enc.ivSize else enc.noncePrefixSize)
          (if wantsSubkeySecret then secret.length else 0)
        setCrypters enc dec diversifyPreliminaryKey e d hkdf enc.keySize
            (if usesInitialObfuscators then enc.ivSize else enc.noncePrefixSize) perspective diversification =
          some (e', d') ∧
        subkeySecret = if wantsSubkeySecret then some hkdf.subkeySecret else none := by
  simp only [deriveKeys, Option.bind_eq_bind, Option.bind_eq_some, Option.pure_def, Option.some.injEq,
    Prod.mk.injEq]
  constructor
  · rintro ⟨secret, hs, crypters, hc, he, hd, hsub⟩
    exact ⟨secret, hs, by rw [hc, ← he, ← hd], hsub.symm⟩
  · rintro ⟨secret, hs, hc, hsub⟩
    exact ⟨secret, hs, _, hc, rfl, rfl, hsub.symm⟩

/-- With crypters that take keys of their sizes and keys of the sizes asked for,
`setCrypters` succeeds exactly for a mode the perspective supports. -/
theorem setCrypters_isSome (haccE : enc.Accepts usesInitialObfuscators) (haccD : dec.Accepts usesInitialObfuscators)
    (hsizes : dec.keySize = enc.keySize ∧ dec.noncePrefixSize = enc.noncePrefixSize ∧ dec.ivSize = enc.ivSize)
    (hdiv : ∀ key noncePrefix nonce keySize noncePrefixSize,
      (diversifyPreliminaryKey key noncePrefix nonce keySize noncePrefixSize).1.length = keySize ∧
        (diversifyPreliminaryKey key noncePrefix nonce keySize noncePrefixSize).2.length = noncePrefixSize)
    {hkdf : QuicHkdfKeys} {subkeySecretBytes : Nat}
    (hsized : hkdf.Sized enc.keySize (if usesInitialObfuscators then enc.ivSize else enc.noncePrefixSize)
      subkeySecretBytes)
    (e : E) (d : D) (perspective : Perspective) (diversification : Diversification) :
    (setCrypters enc dec diversifyPreliminaryKey e d hkdf enc.keySize
      (if usesInitialObfuscators then enc.ivSize else enc.noncePrefixSize) perspective diversification).isSome =
      diversification.supportedBy perspective := by
  obtain ⟨hck, hsk, hciv, hsiv, hchp, hshp, -⟩ := hsized
  have hdecIv : (if usesInitialObfuscators then enc.ivSize else enc.noncePrefixSize) =
      if usesInitialObfuscators then dec.ivSize else dec.noncePrefixSize := by
    rw [hsizes.2.1, hsizes.2.2]
  -- each crypter takes keys of its sizes
  have hE : ∀ e key iv hpKey, key.length = enc.keySize →
      iv.length = (if usesInitialObfuscators then enc.ivSize else enc.noncePrefixSize) → hpKey.length = enc.keySize →
      ∃ e', enc.setKeys enc.setKey e key iv hpKey = some e' := fun e _ _ _ hk hiv hhp =>
    Option.isSome_iff_exists.1 (QuicCrypter.setKeys_isSome haccE haccE.setKey e hk hiv hhp)
  have hD : ∀ (setKey : D → List UInt8 → Bool × D), (∀ c key, key.length = dec.keySize → (setKey c key).1 = true) →
      ∀ d key iv hpKey, key.length = enc.keySize →
      iv.length = (if usesInitialObfuscators then enc.ivSize else enc.noncePrefixSize) → hpKey.length = enc.keySize →
      ∃ d', dec.setKeys setKey d key iv hpKey = some d' := fun setKey hset d _ _ _ hk hiv hhp =>
    Option.isSome_iff_exists.1 (QuicCrypter.setKeys_isSome haccD hset d (hk.trans hsizes.1.symm) (hiv.trans hdecIv)
      (hhp.trans hsizes.1.symm))
  cases diversification with
  | never =>
    cases perspective
    · obtain ⟨e', he⟩ := hE e _ _ _ hsk hsiv hshp
      obtain ⟨d', hd⟩ := hD _ haccD.setKey d _ _ _ hck hciv hchp
      simp [setCrypters, he, hd, Diversification.supportedBy]
    · obtain ⟨e', he⟩ := hE e _ _ _ hck hciv hchp
      obtain ⟨d', hd⟩ := hD _ haccD.setKey d _ _ _ hsk hsiv hshp
      simp [setCrypters, he, hd, Diversification.supportedBy]
  | pending =>
    cases perspective
    · rfl
    · obtain ⟨e', he⟩ := hE e _ _ _ hck hciv hchp
      obtain ⟨d', hd⟩ := hD _ haccD.setPreliminaryKey d _ _ _ hsk hsiv hshp
      simp [setCrypters, he, hd, Diversification.supportedBy]
  | now nonce =>
    cases perspective
    · obtain ⟨hk, hnp⟩ := hdiv hkdf.serverWriteKey hkdf.serverWriteIv nonce enc.keySize
        (if usesInitialObfuscators then enc.ivSize else enc.noncePrefixSize)
      obtain ⟨e', he⟩ := hE e _ _ _ hk hnp hshp
      obtain ⟨d', hd⟩ := hD _ haccD.setKey d _ _ _ hck hciv hchp
      simp [setCrypters, he, hd, Diversification.supportedBy]
    · rfl

/-- `DeriveKeys` succeeds exactly when the pre-shared-key branch does and the mode is
one the perspective supports, for crypters of one AEAD that take keys of their sizes.
A client that never diversifies and a server that never diversifies, from the same
inputs, set the client's encrypter and the server's decrypter from the same key, IV
and header-protection key, the server's encrypter and the client's decrypter from the
same other three, and get the same subkey secret. A client whose keys wait for
diversification and a server that diversifies at once with a nonce agree the same way,
except that the server's encrypter takes the diversification, under that nonce, of
the preliminary key and IV the client's decrypter holds. -/
theorem deriveKeys_agree (haccE : enc.Accepts usesInitialObfuscators) (haccD : dec.Accepts usesInitialObfuscators)
    (hsizes : dec.keySize = enc.keySize ∧ dec.noncePrefixSize = enc.noncePrefixSize ∧ dec.ivSize = enc.ivSize)
    (hkdf : ∀ secret salt info keyBytes ivBytes subkeySecretBytes,
      (quicHkdf secret salt info keyBytes ivBytes subkeySecretBytes).Sized keyBytes ivBytes subkeySecretBytes)
    (hdiv : ∀ key noncePrefix nonce keySize noncePrefixSize,
      (diversifyPreliminaryKey key noncePrefix nonce keySize noncePrefixSize).1.length = keySize ∧
        (diversifyPreliminaryKey key noncePrefix nonce keySize noncePrefixSize).2.length = noncePrefixSize)
    (e : E) (d : D) (premasterSecret clientNonce serverNonce preSharedKey hkdfInput : List UInt8)
    (wantsSubkeySecret : Bool) :
    let derive := deriveKeys host width usesInitialObfuscators enc dec quicHkdf diversifyPreliminaryKey e d
      premasterSecret clientNonce serverNonce preSharedKey hkdfInput
    (∀ perspective diversification, (derive perspective diversification wantsSubkeySecret).isSome ↔
        (deriveKeysPremasterSecret host width preSharedKey premasterSecret).isSome ∧
          diversification.supportedBy perspective = true) ∧
      (∀ eC dC sC eS dS sS, derive .isClient .never wantsSubkeySecret = some (eC, dC, sC) →
        derive .isServer .never wantsSubkeySecret = some (eS, dS, sS) →
        sC = sS ∧ ∃ key iv hpKey key' iv' hpKey',
          enc.setKeys enc.setKey e key iv hpKey = some eC ∧ dec.setKeys dec.setKey d key iv hpKey = some dS ∧
          enc.setKeys enc.setKey e key' iv' hpKey' = some eS ∧ dec.setKeys dec.setKey d key' iv' hpKey' = some dC) ∧
      (∀ nonce eC dC sC eS dS sS, derive .isClient .pending wantsSubkeySecret = some (eC, dC, sC) →
        derive .isServer (.now nonce) wantsSubkeySecret = some (eS, dS, sS) →
        sC = sS ∧ ∃ key iv hpKey key' iv' hpKey',
          enc.setKeys enc.setKey e key iv hpKey = some eC ∧ dec.setKeys dec.setKey d key iv hpKey = some dS ∧
          dec.setKeys dec.setPreliminaryKey d key' iv' hpKey' = some dC ∧
          enc.setKeys enc.setKey e
            (diversifyPreliminaryKey key' iv' nonce enc.keySize
              (if usesInitialObfuscators then enc.ivSize else enc.noncePrefixSize)).1
            (diversifyPreliminaryKey key' iv' nonce enc.keySize
              (if usesInitialObfuscators then enc.ivSize else enc.noncePrefixSize)).2 hpKey' = some eS) := by
  intro derive
  refine ⟨fun perspective diversification => ?_, fun eC dC sC eS dS sS hC hS => ?_,
    fun nonce eC dC sC eS dS sS hC hS => ?_⟩
  · -- success: the pre-shared-key branch, then `setCrypters`
    rcases hs : deriveKeysPremasterSecret host width preSharedKey premasterSecret with _ | secret
    · simp [derive, deriveKeys, hs]
    · have := setCrypters_isSome haccE haccD hsizes hdiv
        (hkdf secret (if serverNonce.isEmpty then clientNonce else clientNonce ++ serverNonce) hkdfInput enc.keySize
          (if usesInitialObfuscators then enc.ivSize else enc.noncePrefixSize)
          (if wantsSubkeySecret then secret.length else 0)) e d perspective diversification
      simp only [derive, deriveKeys, hs, Option.bind_eq_bind, Option.some_bind, Option.isSome_some, true_and]
      rw [← this]
      cases setCrypters enc dec diversifyPreliminaryKey e d _ _ _ perspective diversification <;> rfl
  all_goals
    obtain ⟨secret, hs, hcC, hsubC⟩ := deriveKeys_eq_some.1 hC
    obtain ⟨secret', hs', hcS, hsubS⟩ := deriveKeys_eq_some.1 hS
    rw [hs, Option.some.injEq] at hs'
    subst hs'
    refine ⟨hsubC.trans hsubS.symm, ?_⟩
    simp only [setCrypters, Option.bind_eq_bind, Option.bind_eq_some, Option.pure_def, Option.some.injEq,
      Prod.mk.injEq] at hcC hcS
    obtain ⟨eC', heC, dC', hdC, rfl, rfl⟩ := hcC
  · obtain ⟨eS', heS, dS', hdS, rfl, rfl⟩ := hcS
    exact ⟨_, _, _, _, _, _, heC, hdS, heS, hdC⟩
  · obtain ⟨dS', hdS, eS', heS, rfl, rfl⟩ := hcS
    exact ⟨_, _, _, _, _, _, heC, hdS, hdC, heS⟩

end DeriveKeys

/-! ## Instances -/

/-- A crypter that records the bytes each setter is given, and takes them when they
have the sizes of AES-128-GCM under a version without initial obfuscators. -/
def recordingCrypter : QuicCrypter (List (List UInt8)) where
  keySize := 16
  noncePrefixSize := 4
  ivSize := 12
  setKey c key := (key.length == 16, c ++ [key])
  setPreliminaryKey c key := (key.length == 16, c ++ [key])
  setIV c iv := (iv.length == 12, c ++ [iv])
  setNoncePrefixOrIV c noncePrefix := (noncePrefix.length == 4, c ++ [noncePrefix])
  setHeaderProtectionKey c key := (key.length == 16, c ++ [key])

theorem recordingCrypter_accepts : recordingCrypter.Accepts false where
  setKey _ _ h := beq_iff_eq.2 h
  setPreliminaryKey _ _ h := beq_iff_eq.2 h
  setNoncePrefixOrIV _ _ h := beq_iff_eq.2 h
  setHeaderProtectionKey _ _ h := beq_iff_eq.2 h

/-- Keys of constant bytes, of the sizes asked for. -/
def constantQuicHkdf (_ _ _ : List UInt8) (keyBytes ivBytes subkeySecretBytes : Nat) : QuicHkdfKeys :=
  ⟨List.replicate keyBytes 1, List.replicate keyBytes 2, List.replicate ivBytes 3, List.replicate ivBytes 4,
    List.replicate keyBytes 5, List.replicate keyBytes 6, List.replicate subkeySecretBytes 7⟩

/-- A diversification to constant bytes, of the sizes asked for. -/
def constantDiversify (_ _ _ : List UInt8) (keySize noncePrefixSize : Nat) : List UInt8 × List UInt8 :=
  (List.replicate keySize 8, List.replicate noncePrefixSize 9)

theorem deriveKeys_agree_recording :
    recordingCrypter.Accepts false ∧ recordingCrypter.Accepts false ∧
      (recordingCrypter.keySize = recordingCrypter.keySize ∧
        recordingCrypter.noncePrefixSize = recordingCrypter.noncePrefixSize ∧
        recordingCrypter.ivSize = recordingCrypter.ivSize) ∧
      (∀ secret salt info keyBytes ivBytes subkeySecretBytes,
        (constantQuicHkdf secret salt info keyBytes ivBytes subkeySecretBytes).Sized keyBytes ivBytes
          subkeySecretBytes) ∧
      (∀ key noncePrefix nonce keySize noncePrefixSize,
        (constantDiversify key noncePrefix nonce keySize noncePrefixSize).1.length = keySize ∧
          (constantDiversify key noncePrefix nonce keySize noncePrefixSize).2.length = noncePrefixSize) ∧
      let derive := deriveKeys .littleEndian 64 false recordingCrypter recordingCrypter constantQuicHkdf
        constantDiversify [] [] (List.replicate 32 0) (List.replicate 32 1) [] [] []
      (∀ perspective diversification, (derive perspective diversification true).isSome ↔
          (deriveKeysPremasterSecret .littleEndian 64 [] (List.replicate 32 0)).isSome ∧
            diversification.supportedBy perspective = true) ∧
        (∀ eC dC sC eS dS sS, derive .isClient .never true = some (eC, dC, sC) →
          derive .isServer .never true = some (eS, dS, sS) →
          sC = sS ∧ ∃ key iv hpKey key' iv' hpKey',
            recordingCrypter.setKeys recordingCrypter.setKey [] key iv hpKey = some eC ∧
            recordingCrypter.setKeys recordingCrypter.setKey [] key iv hpKey = some dS ∧
            recordingCrypter.setKeys recordingCrypter.setKey [] key' iv' hpKey' = some eS ∧
            recordingCrypter.setKeys recordingCrypter.setKey [] key' iv' hpKey' = some dC) ∧
        (∀ nonce eC dC sC eS dS sS, derive .isClient .pending true = some (eC, dC, sC) →
          derive .isServer (.now nonce) true = some (eS, dS, sS) →
          sC = sS ∧ ∃ key iv hpKey key' iv' hpKey',
            recordingCrypter.setKeys recordingCrypter.setKey [] key iv hpKey = some eC ∧
            recordingCrypter.setKeys recordingCrypter.setKey [] key iv hpKey = some dS ∧
            recordingCrypter.setKeys recordingCrypter.setPreliminaryKey [] key' iv' hpKey' = some dC ∧
            recordingCrypter.setKeys recordingCrypter.setKey []
              (constantDiversify key' iv' nonce recordingCrypter.keySize
                (if false then recordingCrypter.ivSize else recordingCrypter.noncePrefixSize)).1
              (constantDiversify key' iv' nonce recordingCrypter.keySize
                (if false then recordingCrypter.ivSize else recordingCrypter.noncePrefixSize)).2 hpKey' = some eS) := by
  have hkdf : ∀ secret salt info keyBytes ivBytes subkeySecretBytes,
      (constantQuicHkdf secret salt info keyBytes ivBytes subkeySecretBytes).Sized keyBytes ivBytes
        subkeySecretBytes := by
    intros
    simp [constantQuicHkdf, QuicHkdfKeys.Sized]
  have hdiv : ∀ key noncePrefix nonce keySize noncePrefixSize,
      (constantDiversify key noncePrefix nonce keySize noncePrefixSize).1.length = keySize ∧
        (constantDiversify key noncePrefix nonce keySize noncePrefixSize).2.length = noncePrefixSize := by
    intros
    simp [constantDiversify]
  exact ⟨recordingCrypter_accepts, recordingCrypter_accepts, ⟨rfl, rfl, rfl⟩, hkdf, hdiv,
    deriveKeys_agree recordingCrypter_accepts recordingCrypter_accepts ⟨rfl, rfl, rfl⟩ hkdf hdiv _ _ _ _ _ _ _ _⟩

end CryptoUtils

end Quic

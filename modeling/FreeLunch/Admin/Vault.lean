import FreeLunch.Foundations.Tables
import FreeLunch.Gateway.Auth
import FreeLunch.Runtime.ManagedSecrets

/-!
# The secret vault

`create_vault_config`, `unlock_vault` and `ManagedSecretStore` of `src/secret_store.py`.  The
vault has no password stored: it keeps a salt and a text that was encrypted under the key
derived from the password, and a password is right when the key derived from it reads that
text.

Main results:

- Theorem `locks_createVaultConfig`: a new configuration belongs to the key it was made with.
- Theorem `unlockVault_of_opens`: the vault opens for the passwords that derive the key of its
  configuration, and by `unlockVault_of_not_opens` for no other.
- Theorem `decryptMapping_of_holds`: under that key all stored secrets are read back.

Current gaps:

- PBKDF2 and Fernet are parameters.
-/

namespace FreeLunch
namespace Admin

open FreeLunch.Runtime FreeLunch.Gateway Python Tables Transactions

/-! ## The cipher -/

/-- `Fernet`, by key.  Encrypting draws an initialization vector and reads the clock; a token
is refused under every key but its own. -/
structure Fernet (Draw : Type) where
  encrypt : List UInt8 → Draw → String → String
  decrypt : List UInt8 → String → Decrypted
  decrypt_encrypt : ∀ key draw text, decrypt key (encrypt key draw text) = .plaintext text
  decrypt_other : ∀ {key other}, key ≠ other → ∀ draw text,
    decrypt other (encrypt key draw text) = .invalidToken

section Cipher

variable {Draw : Type} (fernet : Fernet Draw) (pbkdf2 : Pbkdf2)

/-- `ManagedSecretStore(fernet)`. -/
def Fernet.store (key : List UInt8) : ManagedSecretStore where
  decrypt := fernet.decrypt key

/-- The store with its `encrypt`. -/
def Fernet.secretVault (key : List UInt8) (draw : Draw) : SecretVault where
  store := fernet.store key
  encrypt := fernet.encrypt key draw
  decrypt_encrypt := fernet.decrypt_encrypt key draw

/-- `_VERIFIER_PLAINTEXT`. -/
def verifierPlaintext : String := "freelunch-vault-verifier"

/-- `_derive_fernet`: the key of the `Fernet`. -/
def deriveFernet (password saltB64 : String) : Except Exc (List UInt8) := do
  let salt ← decodeStored saltB64
  return pbkdf2 (encodeUtf8 password) salt

/-- `create_vault_config` with the salt that it draws. -/
def createVaultConfig (salt : List UInt8) (draw : Draw) (password : String) :
    Except Exc (SecretVaultConfig × List UInt8) := do
  let cleaned := stripped password
  if cleaned = "" then throw (.valueError "vault password cannot be empty")
  let saltB64 := decodeAscii (urlsafeB64encode salt)
  let key ← deriveFernet pbkdf2 cleaned saltB64
  return ({ saltB64 := saltB64, verifierEncrypted := fernet.encrypt key draw verifierPlaintext },
    key)

/-- What `unlock_vault` raises. -/
inductive UnlockError where
  /-- `SecretStorePasswordError`. -/
  | password (detail : String)
  | raised (exc : Exc)

/-- What `unlock_vault` makes of the decrypted verifier. -/
def checkVerifier (key : List UInt8) : Decrypted → Except UnlockError (List UInt8)
  | .raised exc => .error (.raised exc)
  | .invalidToken => .error (.password "invalid vault password")
  | .plaintext verifier =>
      if verifier = verifierPlaintext then .ok key
      else .error (.password "invalid vault password")

/-- `unlock_vault`. -/
def unlockVault (password : String) (config : SecretVaultConfig) :
    Except UnlockError (List UInt8) := do
  let cleaned := stripped password
  if cleaned = "" then throw (.password "vault password cannot be empty")
  let key ← (deriveFernet pbkdf2 cleaned config.saltB64).mapError .raised
  checkVerifier key (fernet.decrypt key config.verifierEncrypted)

/-! ## Passwords -/

/-- The salt and the key that a password is checked against. -/
structure Lock where
  salt : List UInt8
  key : List UInt8

/-- The password derives the key. -/
def Lock.Opens (lock : Lock) (password : String) : Prop :=
  stripped password ≠ "" ∧ pbkdf2 (encodeUtf8 (stripped password)) lock.salt = lock.key

instance (lock : Lock) (password : String) : Decidable (lock.Opens pbkdf2 password) :=
  inferInstanceAs (Decidable (_ ∧ _))

/-- The lock that a new vault gets. -/
def lockFor (salt : List UInt8) (password : String) : Lock where
  salt := salt
  key := pbkdf2 (encodeUtf8 (stripped password)) salt

/-- The configuration belongs to the lock. -/
def Locks (config : SecretVaultConfig) (lock : Lock) : Prop :=
  decodeStored config.saltB64 = .ok lock.salt ∧
    ∃ draw, config.verifierEncrypted = fernet.encrypt lock.key draw verifierPlaintext

/-- A new configuration belongs to the key that it was made with. -/
theorem locks_createVaultConfig {password : String} (h : stripped password ≠ "")
    (salt : List UInt8) (draw : Draw) :
    ∃ config, createVaultConfig fernet pbkdf2 salt draw password =
        .ok (config, (lockFor pbkdf2 salt password).key) ∧
      Locks fernet config (lockFor pbkdf2 salt password) := by
  have hsalt : decodeStored (decodeAscii (urlsafeB64encode salt)) = .ok salt :=
    decode_encodeAscii_decodeAscii salt
  refine ⟨⟨decodeAscii (urlsafeB64encode salt),
    fernet.encrypt (lockFor pbkdf2 salt password).key draw verifierPlaintext⟩, ?_, hsalt, draw, rfl⟩
  unfold createVaultConfig deriveFernet
  dsimp only
  rw [if_neg h, hsalt]
  rfl

variable {fernet pbkdf2}

theorem unlockVault_eq {password : String} (h : stripped password ≠ "")
    {config : SecretVaultConfig} {salt : List UInt8}
    (hsalt : decodeStored config.saltB64 = .ok salt) :
    unlockVault fernet pbkdf2 password config =
      checkVerifier (pbkdf2 (encodeUtf8 (stripped password)) salt)
        (fernet.decrypt (pbkdf2 (encodeUtf8 (stripped password)) salt)
          config.verifierEncrypted) := by
  unfold unlockVault deriveFernet
  dsimp only
  rw [if_neg h, hsalt]
  rfl

/-- The vault opens for the passwords that derive the key of its configuration, and yields
that key. -/
theorem unlockVault_of_opens {config : SecretVaultConfig} {lock : Lock}
    (h : Locks fernet config lock) {password : String} (hopens : lock.Opens pbkdf2 password) :
    unlockVault fernet pbkdf2 password config = .ok lock.key := by
  obtain ⟨hsalt, draw, hverifier⟩ := h
  rw [unlockVault_eq hopens.1 hsalt, hopens.2, hverifier, fernet.decrypt_encrypt, checkVerifier,
    if_pos rfl]

/-- Every other password is refused as one. -/
theorem unlockVault_of_not_opens {config : SecretVaultConfig} {lock : Lock}
    (h : Locks fernet config lock) {password : String} (hopens : ¬ lock.Opens pbkdf2 password) :
    ∃ detail, unlockVault fernet pbkdf2 password config = .error (.password detail) := by
  obtain ⟨hsalt, draw, hverifier⟩ := h
  by_cases hblank : stripped password = ""
  · refine ⟨"vault password cannot be empty", ?_⟩
    unfold unlockVault
    dsimp only
    rw [if_pos hblank]
    rfl
  · refine ⟨"invalid vault password", ?_⟩
    have hkey : lock.key ≠ pbkdf2 (encodeUtf8 (stripped password)) lock.salt :=
      fun hkey => hopens ⟨hblank, hkey.symm⟩
    rw [unlockVault_eq hblank hsalt, hverifier, fernet.decrypt_other hkey]
    rfl

/-! ## Stored secrets -/

/-- The rows store the secrets, encrypted under the key. -/
def Fernet.Holds (fernet : Fernet Draw) (key : List UInt8)
    (rows secrets : List (String × String)) : Prop :=
  List.Forall₂ (fun row secret => row.1 = secret.1 ∧
    ∃ draw, row.2 = fernet.encrypt key draw secret.2) rows secrets

/-- The keys of the rows are those of the secrets. -/
theorem Fernet.Holds.keys {key : List UInt8} {rows secrets : List (String × String)}
    (h : fernet.Holds key rows secrets) : rows.map Prod.fst = secrets.map Prod.fst := by
  induction h with
  | nil => rfl
  | cons first _ ih => rw [List.map_cons, List.map_cons, first.1, ih]

/-- Storing a secret. -/
theorem Fernet.Holds.set {key : List UInt8} {rows secrets : List (String × String)}
    (h : fernet.Holds key rows secrets) (name text : String) (draw : Draw) :
    fernet.Holds key (dictSet rows name (fernet.encrypt key draw text))
      (dictSet secrets name text) := by
  induction h with
  | nil => exact .cons ⟨rfl, draw, rfl⟩ .nil
  | @cons row secret rows secrets first rest ih =>
      unfold dictSet
      rw [first.1]
      by_cases hname : (secret.1 == name) = true
      · rw [if_pos hname, if_pos hname]
        exact .cons ⟨rfl, draw, rfl⟩ rest
      · rw [if_neg hname, if_neg hname]
        exact .cons first ih

/-- Deleting a secret. -/
theorem Fernet.Holds.delete {key : List UInt8} {rows secrets : List (String × String)}
    (h : fernet.Holds key rows secrets) (name : String) :
    fernet.Holds key (deleteKey Prod.fst name rows) (deleteKey Prod.fst name secrets) := by
  induction h with
  | nil => exact .nil
  | @cons row secret rows secrets first rest ih =>
      unfold deleteKey
      rw [List.filter_cons, List.filter_cons, first.1]
      by_cases hname : secret.1 = name
      · rw [if_neg (by simpa using hname), if_neg (by simpa using hname)]
        exact ih
      · rw [if_pos (by simpa using hname), if_pos (by simpa using hname)]
        exact .cons first ih

/-- Under their key all stored secrets are read back, and none fails. -/
theorem decryptMapping_of_holds {key : List UInt8} {rows secrets : List (String × String)}
    (h : fernet.Holds key rows secrets) :
    (fernet.store key).decryptMapping rows = .ok (secrets, []) := by
  induction h with
  | nil => rfl
  | @cons row secret rows secrets first rest ih =>
      obtain ⟨hname, draw, htoken⟩ := first
      unfold ManagedSecretStore.decryptMapping
      have hdecrypt : (fernet.store key).decrypt row.2 = .plaintext secret.2 := by
        rw [htoken]
        exact fernet.decrypt_encrypt key draw secret.2
      rw [hdecrypt, ih, hname]
      rfl

end Cipher

/-! ## A cipher that shows its key -/

/-- A byte as a character. -/
def byteChar (byte : UInt8) : Char := Char.ofNat byte.toNat

theorem byteChar_injective : Function.Injective byteChar := by
  have hval : ∀ byte : UInt8, (byteChar byte).toNat = byte.toNat := by
    intro byte
    have hlt := byte.toNat_lt
    have hvalid : byte.toNat.isValidChar := Or.inl (by omega)
    rw [byteChar, Char.ofNat, dif_pos hvalid]
    rfl
  intro a b h
  have hsame := congrArg Char.toNat h
  rw [hval, hval] at hsame
  exact UInt8.toNat_inj.mp hsame

/-- The bytes of a key in front of a text. -/
def tagged (key : List UInt8) (text : List Char) : List Char :=
  match key with
  | [] => 't' :: text
  | byte :: key => 'k' :: byteChar byte :: tagged key text

/-- The text behind the bytes of a key. -/
def untagged : List UInt8 → List Char → Option (List Char)
  | [], 't' :: text => some text
  | byte :: key, 'k' :: c :: rest => if c = byteChar byte then untagged key rest else none
  | _, _ => none

theorem untagged_tagged (key : List UInt8) (text : List Char) :
    untagged key (tagged key text) = some text := by
  induction key with
  | nil => rfl
  | cons byte key ih =>
      exact (if_pos rfl).trans ih

theorem untagged_other {key other : List UInt8} (h : key ≠ other) (text : List Char) :
    untagged other (tagged key text) = none := by
  induction key generalizing other with
  | nil =>
      cases other with
      | nil => exact absurd rfl h
      | cons byte other => rfl
  | cons byte key ih =>
      cases other with
      | nil => rfl
      | cons byte' other =>
          by_cases hbyte : byteChar byte = byteChar byte'
          · refine (if_pos hbyte).trans (ih fun hkey => h ?_)
            rw [byteChar_injective hbyte, hkey]
          · exact if_neg hbyte

/-- A cipher whose tokens name their key. -/
def taggedFernet : Fernet Unit where
  encrypt key _ text := String.ofList (tagged key text.toList)
  decrypt key stored :=
    match untagged key stored.toList with
    | none => .invalidToken
    | some text => .plaintext (String.ofList text)
  decrypt_encrypt key _ text := by
    rw [String.toList_ofList, untagged_tagged]
    dsimp only
    rw [String.ofList_toList]
  decrypt_other h _ text := by
    rw [String.toList_ofList, untagged_other h]

end Admin
end FreeLunch

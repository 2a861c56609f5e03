import Ormpp.Wire.Handshake

/-!
# What is made of the password

The responses of the two authentication plugins, and the encryption of the password for a server
that asks for it. The hashes and the encryption themselves are OpenSSL's and remain uninterpreted:
nothing is assumed of them but the lengths of the digests.

Two passwords are alike if neither is empty, or both are, and OpenSSL makes the same of the one and
the other. Everything here is then the same for both.
-/

namespace Ormpp

/-- What the client uses of OpenSSL. -/
structure Openssl (Key : Type) where
  sha1 : Bytes → Bytes
  length_sha1 : ∀ data, (sha1 data).length = 20
  sha256 : Bytes → Bytes
  length_sha256 : ∀ data, (sha256 data).length = 32
  bioNewMemBuf : Bytes → Bool
  pemReadBioPubkey : Bytes → Option Key
  evpPkeyCtxNew : Key → Bool
  evpPkeyEncryptInit : Key → Bool
  evpPkeyCtxSetRsaPadding : Key → Bool
  evpPkeySize : Key → ℤ
  /-- The padding is random; the number stands for what has been drawn. -/
  evpPkeyEncrypt : ℕ → Key → Bytes → Option Bytes

variable {Key : Type} (ssl : Openssl Key)

/-! ## Responses -/

/-- The bitwise difference of two digests. -/
def xorBytes (stage1 stage3 : Bytes) : Bytes := List.zipWith (fun a b ↦ a ^^^ b) stage1 stage3

/-- `scramble_mysql_native_password`. -/
def scrambleMysqlNativePassword (password : Bytes) (scramble : Scramble) : Bytes :=
  if password = [] then []
  else
    let stage1 := ssl.sha1 password
    let stage2 := ssl.sha1 stage1
    let stage3 := ssl.sha1 (scramble.val ++ stage2)
    xorBytes stage1 stage3

/-- `scramble_caching_sha2_password`, which hashes the scramble last. -/
def scrambleCachingSha2Password (password : Bytes) (scramble : Scramble) : Bytes :=
  if password = [] then []
  else
    let stage1 := ssl.sha256 password
    let stage2 := ssl.sha256 stage1
    let stage3 := ssl.sha256 (stage2 ++ scramble.val)
    xorBytes stage1 stage3

/-- `build_auth_response`. -/
def buildAuthResponse (password : Bytes) (scramble : Scramble) (plugin : Bytes) :
    Except Exn Bytes :=
  if plugin = mysqlNativePassword then .ok (scrambleMysqlNativePassword ssl password scramble)
  else if plugin = cachingSha2Password then
    .ok (scrambleCachingSha2Password ssl password scramble)
  else .error (.runtimeError (ascii "mysql_async: unsupported auth plugin " ++ plugin))

/-! ## Encryption -/

/-- `salt_caching_sha2_password`: the scramble over and over, as far as the zero behind the
password. -/
def saltCachingSha2Password (password : Bytes) (scramble : Scramble) : Bytes :=
  password.mapIdx (fun i b ↦ b ^^^ scramble.val.getD (i % 20) 0)
    ++ [scramble.val.getD (password.length % 20) 0]

/-- The error of a call into OpenSSL that has failed. -/
def opensslError (call : Bytes) : Except Exn Bytes :=
  .error (.runtimeError (ascii "mysql_async openssl: " ++ call ++ ascii " failed"))

/-- `rsa_encrypt_password`. -/
def rsaEncryptPassword (drawn : ℕ) (password : Bytes) (scramble : Scramble) (publicKey : Bytes) :
    Except Exn Bytes :=
  if !ssl.bioNewMemBuf publicKey then opensslError (ascii "BIO_new_mem_buf")
  else
    match ssl.pemReadBioPubkey publicKey with
    | none => opensslError (ascii "PEM_read_bio_PUBKEY")
    | some key =>
      let salted := saltCachingSha2Password password scramble
      if !ssl.evpPkeyCtxNew key then opensslError (ascii "EVP_PKEY_CTX_new")
      else if !ssl.evpPkeyEncryptInit key then opensslError (ascii "EVP_PKEY_encrypt_init")
      else if !ssl.evpPkeyCtxSetRsaPadding key then
        opensslError (ascii "EVP_PKEY_CTX_set_rsa_padding")
      else if ssl.evpPkeySize key ≤ 0 then opensslError (ascii "EVP_PKEY_size")
      else
        match ssl.evpPkeyEncrypt drawn key salted with
        | none => opensslError (ascii "EVP_PKEY_encrypt")
        | some encrypted => .ok encrypted

/-! ## Lengths -/

theorem length_xorBytes {stage1 stage3 : Bytes} {n : ℕ} (h1 : stage1.length = n)
    (h3 : stage3.length = n) : (xorBytes stage1 stage3).length = n := by
  rw [xorBytes, List.length_zipWith, h1, h3, Nat.min_self]

/-- The plugins that there is a response for. -/
theorem supported_of_buildAuthResponse {password : Bytes} {scramble : Scramble} {plugin : Bytes}
    {authData : Bytes} (h : buildAuthResponse ssl password scramble plugin = .ok authData) :
    plugin = mysqlNativePassword ∨ plugin = cachingSha2Password := by
  rw [buildAuthResponse] at h
  split_ifs at h with hnative hsha2
  · exact Or.inl hnative
  · exact Or.inr hsha2

theorem exists_buildAuthResponse (password : Bytes) (scramble : Scramble) {plugin : Bytes}
    (h : plugin = mysqlNativePassword ∨ plugin = cachingSha2Password) :
    ∃ authData, buildAuthResponse ssl password scramble plugin = .ok authData := by
  rw [buildAuthResponse]
  split_ifs with hnative hsha2
  · exact ⟨_, rfl⟩
  · exact ⟨_, rfl⟩
  · exact absurd h (not_or.mpr ⟨hnative, hsha2⟩)

/-- A response is empty for an empty password, and otherwise as long as a digest. -/
theorem length_buildAuthResponse {password : Bytes} {scramble : Scramble} {plugin : Bytes}
    {authData : Bytes} (h : buildAuthResponse ssl password scramble plugin = .ok authData) :
    (password = [] ∧ authData = []) ∨
      (password ≠ [] ∧ (authData.length = 20 ∨ authData.length = 32)) := by
  rw [buildAuthResponse, scrambleMysqlNativePassword, scrambleCachingSha2Password] at h
  split_ifs at h with hnative hempty hsha2
  · cases h
    exact Or.inl ⟨hempty, rfl⟩
  · cases h
    exact Or.inr ⟨hempty, Or.inl (length_xorBytes (ssl.length_sha1 _) (ssl.length_sha1 _))⟩
  · rename_i hempty
    cases h
    exact Or.inl ⟨hempty, rfl⟩
  · rename_i hempty
    cases h
    exact Or.inr ⟨hempty, Or.inr (length_xorBytes (ssl.length_sha256 _) (ssl.length_sha256 _))⟩

/-! ## Passwords that are alike -/

/-- OpenSSL makes the same of the two passwords. -/
structure Openssl.Alike (password password' : Bytes) : Prop where
  empty : password = [] ↔ password' = []
  sha1 : ssl.sha1 password = ssl.sha1 password'
  sha256 : ssl.sha256 password = ssl.sha256 password'
  evpPkeyEncrypt : ∀ (drawn : ℕ) (key : Key) (scramble : Scramble),
    ssl.evpPkeyEncrypt drawn key (saltCachingSha2Password password scramble)
      = ssl.evpPkeyEncrypt drawn key (saltCachingSha2Password password' scramble)

variable {ssl} {password password' : Bytes}

theorem Openssl.Alike.buildAuthResponse (h : ssl.Alike password password') (scramble : Scramble)
    (plugin : Bytes) :
    buildAuthResponse ssl password scramble plugin
      = buildAuthResponse ssl password' scramble plugin := by
  rw [Ormpp.buildAuthResponse, Ormpp.buildAuthResponse, scrambleMysqlNativePassword,
    scrambleMysqlNativePassword, scrambleCachingSha2Password, scrambleCachingSha2Password, h.sha1,
    h.sha256]
  simp only [h.empty]

theorem Openssl.Alike.rsaEncryptPassword (h : ssl.Alike password password') (drawn : ℕ)
    (scramble : Scramble) (publicKey : Bytes) :
    rsaEncryptPassword ssl drawn password scramble publicKey
      = rsaEncryptPassword ssl drawn password' scramble publicKey := by
  simp only [Ormpp.rsaEncryptPassword, h.evpPkeyEncrypt]

end Ormpp

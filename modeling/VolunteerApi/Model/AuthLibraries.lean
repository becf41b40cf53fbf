import VolunteerApi.Model.AuthTokens

/-!
# What the libraries promise

`argon2.verify` accepts exactly the hashed string, a hash is not empty, and the payload of a
signed token can be read again.  A plain text encoding of the payload and of the salted
password keeps all three.  `Argon2.Lawful` adds that nothing but a hash is verified.
-/

set_option autoImplicit false

namespace VolunteerApi

structure AuthEnv.Lawful (env : AuthEnv) : Prop where
  verify_iff : ∀ salt plain other,
    env.argon2.verify (env.argon2.hash salt plain) other = true ↔ other = plain
  hash_ne : ∀ salt plain, env.argon2.hash salt plain ≠ ""
  claims_sign : ∀ secret claims, env.jwt.claims (env.jwt.sign secret claims) = some claims

structure Argon2.Lawful (argon2 : Argon2) : Prop where
  verify_iff : ∀ salt plain other,
    argon2.verify (argon2.hash salt plain) other = true ↔ other = plain
  hash_of_verify : ∀ text plain, argon2.verify text plain = true →
    ∃ salt other, text = argon2.hash salt other

namespace PlainText

/-- A number in decimal digits, with a semicolon behind it. -/
def numbered (n : Nat) (rest : List Char) : List Char := Nat.toDigits 10 n ++ ';' :: rest

def readNumber (text : List Char) : Nat × List Char :=
  (Nat.ofDigitChars 10 (text.takeWhile fun c => c ≠ ';') 0,
    (text.dropWhile fun c => c ≠ ';').drop 1)

theorem digits_ne_semicolon {n : Nat} {c : Char} (digit : c ∈ Nat.toDigits 10 n) : c ≠ ';' := by
  rintro rfl
  exact absurd (Nat.isDigit_of_mem_toDigits (by decide) (by decide) digit) (by decide)

@[simp] theorem readNumber_numbered (n : Nat) (rest : List Char) :
    readNumber (numbered n rest) = (n, rest) := by
  have digits : ∀ c ∈ Nat.toDigits 10 n, decide (c ≠ ';') = true := fun _ digit =>
    decide_eq_true (digits_ne_semicolon digit)
  have front : (numbered n rest).takeWhile (fun c => c ≠ ';') = Nat.toDigits 10 n := by
    rw [numbered, List.takeWhile_append_of_pos digits, List.takeWhile_cons_of_neg (by simp),
      List.append_nil]
  have back : (numbered n rest).dropWhile (fun c => c ≠ ';') = ';' :: rest := by
    rw [numbered, List.dropWhile_append_of_pos digits, List.dropWhile_cons_of_neg (by simp)]
  rw [readNumber, front, back, Nat.ofDigitChars_toDigits (by decide) (by decide)]
  rfl

def roles : List SystemRole := [.admin, .coordinator, .volunteer, .requester]

def clearances : List ClearanceLevel := [.local, .international, .frontline]

theorem roles_idxOf (role : SystemRole) : roles[roles.idxOf role]? = some role := by
  cases role <;> rfl

theorem clearances_idxOf (level : ClearanceLevel) :
    clearances[clearances.idxOf level]? = some level := by
  cases level <;> rfl

/-- The payload in front of the secret. -/
def sign (secret : String) (claims : JwtClaims) : String :=
  String.ofList (numbered claims.sub (numbered claims.iat (numbered claims.exp
    (numbered (roles.idxOf claims.role) (numbered (clearances.idxOf claims.clearance)
      (numbered claims.email.length (claims.email.toList ++ secret.toList)))))))

def claims (token : String) : Option JwtClaims := do
  let (sub, text) := readNumber token.toList
  let (iat, text) := readNumber text
  let (exp, text) := readNumber text
  let (roleIdx, text) := readNumber text
  let (clearanceIdx, text) := readNumber text
  let (length, text) := readNumber text
  let role ← roles[roleIdx]?
  let clearance ← clearances[clearanceIdx]?
  return { sub, email := String.ofList (text.take length), role, clearance, iat, exp }

theorem claims_sign (secret : String) (payload : JwtClaims) :
    claims (sign secret payload) = some payload := by
  have email : (payload.email.toList ++ secret.toList).take payload.email.length =
      payload.email.toList := by
    rw [← String.length_toList, List.take_left]
  simp [claims, sign, roles_idxOf, clearances_idxOf, email]

def marker : List Char := ['$', 'a', 'r', 'g', 'o', 'n', '2']

def hash (salt plain : String) : String :=
  String.ofList (marker ++ numbered salt.length (salt.toList ++ plain.toList))

def verify (hash plain : String) : Bool :=
  let (length, text) := readNumber (hash.toList.drop marker.length)
  String.ofList (text.drop length) = plain

theorem verify_hash (salt plain other : String) :
    verify (hash salt plain) other = true ↔ other = plain := by
  have password : (salt.toList ++ plain.toList).drop salt.length = plain.toList := by
    rw [← String.length_toList, List.drop_left]
  have accepted : verify (hash salt plain) other = decide (plain = other) := by
    simp [verify, hash, password]
  rw [accepted, decide_eq_true_iff, eq_comm]

theorem hash_ne (salt plain : String) : hash salt plain ≠ "" := by
  intro empty
  have letters := congrArg String.toList empty
  simp [hash, marker] at letters

end PlainText

def plainTextEnv : AuthEnv where
  argon2 := ⟨PlainText.hash, PlainText.verify⟩
  jwt := ⟨PlainText.sign, PlainText.claims⟩
  jwtSecret := "access"
  jwtExpiresIn := 15 * 60
  jwtRefreshSecret := "refresh"
  jwtRefreshExpiresIn := 30 * 24 * 60 * 60

theorem plainTextEnv_lawful : plainTextEnv.Lawful := by
  constructor
  · intro salt plain other
    simp only [plainTextEnv, PlainText.verify_hash]
  · intro salt plain
    exact PlainText.hash_ne salt plain
  · intro secret claims
    simp only [plainTextEnv, PlainText.claims_sign]

end VolunteerApi

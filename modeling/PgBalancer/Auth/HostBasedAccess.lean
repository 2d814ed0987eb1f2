import PgBalancer.Auth.Scram

/-!
# Host-based access

`check_hba` tries the records of `pool_hba.conf` in their order and takes the first one that
matches a connection. A token of a list of databases or users can match, leave the decision to
the next one, or end the search of its list, if it asks for a group.

* `access_decision_iff` — **the record taken is the first one that names the client, unless that
  one asks for a group before it names the client**.
-/

namespace PgBalancer.Auth

/-- A token of a list of databases or users; a quoted one is no keyword. -/
structure HbaToken where
  string : Bytes
  quoted : Bool
  deriving DecidableEq

/-- `local`, `host`, `hostssl` and `hostnossl` -/
inductive ConnType where
  | ctLocal
  | ctHost
  | ctHostSSL
  | ctHostNoSSL
  deriving DecidableEq

/-- How the address of a client is compared. -/
inductive IPCompareMethod where
  | ipCmpMask
  | ipCmpSameHost
  | ipCmpSameNet
  | ipCmpAll

/-- `ss_family` -/
inductive AddressFamily where
  | unix
  | inet
  | inet6
  deriving DecidableEq

/-- A family and the bytes of an address in it. -/
structure SockAddr where
  family : AddressFamily
  address : Bytes

/-- The fields of a record that `check_hba` reads. -/
structure HbaLine where
  conntype : ConnType
  databases : List HbaToken
  users : List HbaToken
  addr : SockAddr
  mask : SockAddr
  ipCmpMethod : IPCompareMethod
  hostname : Option Bytes

/-- What `check_hba` reads of the frontend. -/
structure HbaClient where
  raddr : SockAddr
  ssl : Bool
  database : Bytes
  username : Bytes

/-- What the resolver and the interfaces of the host say of an address: `check_hostname` and
`check_same_host_or_net`. They do not change while a client is checked. -/
structure HostNetwork where
  checkHostname : SockAddr → Bytes → Bool
  checkSameHostOrNet : SockAddr → IPCompareMethod → Bool

/-- The addresses agree in the bits of the mask. -/
def rangeSockAddr (addr netaddr netmask : SockAddr) : Bool :=
  match addr.family with
  | .unix => false
  | .inet | .inet6 =>
    ((addr.address.zip netaddr.address).zip netmask.address).all fun b =>
      (b.1.1 ^^^ b.1.2) &&& b.2 == 0

/-- `check_ip` -/
def checkIp (raddr addr mask : SockAddr) : Bool :=
  raddr.family = addr.family && rangeSockAddr raddr addr mask

/-- `token_is_keyword` -/
def HbaToken.isKeyword (tok : HbaToken) (keyword : String) : Bool :=
  !tok.quoted && tok.string == ascii keyword

/-- A loop over tokens that returns at the first one with a verdict. -/
def checkTokens (verdict : HbaToken → Option Bool) (tokens : List HbaToken) : Bool :=
  (tokens.findSome? verdict).getD false

/-- What a token of `check_user` decides. -/
def userVerdict (user : Bytes) (tok : HbaToken) : Option Bool :=
  if !tok.quoted && tok.string.head? == some 43 then some false  -- a group: `+`
  else if tok.string = user ∨ tok.isKeyword "all" then some true
  else none

/-- `check_user` -/
def checkUser (user : Bytes) : List HbaToken → Bool := checkTokens (userVerdict user)

/-- What a token of `check_db` decides. -/
def dbVerdict (dbname user : Bytes) (tok : HbaToken) : Option Bool :=
  if tok.isKeyword "all" then some true
  else if tok.isKeyword "sameuser" then if dbname = user then some true else none
  else if tok.isKeyword "samegroup" || tok.isKeyword "samerole" then some false
  else if tok.string = dbname then some true
  else none

/-- `check_db` -/
def checkDb (dbname user : Bytes) : List HbaToken → Bool := checkTokens (dbVerdict dbname user)

variable (net : HostNetwork) (client : HbaClient)

/-- The tests of connection type, SSL state and address. -/
def HbaLine.checkAddress (hba : HbaLine) : Bool :=
  match hba.conntype with
  | .ctLocal => client.raddr.family = .unix
  | conntype =>
    client.raddr.family ≠ .unix &&
    (if client.ssl then conntype ≠ .ctHostNoSSL else conntype ≠ .ctHostSSL) &&
    match hba.ipCmpMethod, hba.hostname with
    | .ipCmpMask, some hostname => net.checkHostname client.raddr hostname
    | .ipCmpMask, none => checkIp client.raddr hba.addr hba.mask
    | .ipCmpAll, _ => true
    | method, _ => net.checkSameHostOrNet client.raddr method

/-- The loop of `check_hba`; `none` is the implicit reject. -/
def checkHbaLoop : List HbaLine → Option HbaLine
  | [] => none
  | hba :: lines =>
    if !hba.checkAddress net client then checkHbaLoop lines
    else if !checkDb client.database client.username hba.databases then checkHbaLoop lines
    else if !checkUser client.username hba.users then checkHbaLoop lines
    else some hba

/-- What `check_hba` leaves in the frontend, if it returns `true`. -/
def checkHba (parsedHbaLines : List HbaLine) : Option (Option HbaLine) :=
  if parsedHbaLines.isEmpty then none else some (checkHbaLoop net client parsedHbaLines)

/-! ## The record that is expected -/

/-- The record names the client: a token of each list matches on its own. -/
def HbaLine.names (hba : HbaLine) : Bool :=
  hba.checkAddress net client &&
    hba.databases.any (fun tok => checkDb client.database client.username [tok]) &&
    hba.users.any fun tok => checkUser client.username [tok]

/-- The first token with a verdict matches: none before it asks for a group. -/
def Unshadowed (verdict : HbaToken → Option Bool) (tokens : List HbaToken) : Prop :=
  ∃ before tok after, tokens = before ++ tok :: after ∧ verdict tok = some true ∧
    ∀ t ∈ before, verdict t = none

variable {verdict : HbaToken → Option Bool} {tokens : List HbaToken}

theorem checkTokens_iff : checkTokens verdict tokens = true ↔ Unshadowed verdict tokens := by
  rw [checkTokens, Unshadowed, ← List.findSome?_eq_some_iff, Option.getD_eq_iff]
  simp

/-- A list that is accepted has a token that is accepted on its own. -/
theorem any_of_checkTokens (h : checkTokens verdict tokens = true) :
    tokens.any (fun tok => checkTokens verdict [tok]) = true := by
  obtain ⟨before, tok, after, rfl, htok, -⟩ := checkTokens_iff.1 h
  simp [checkTokens, htok]

/-- The loop finds the first record that passes all three tests. -/
theorem checkHbaLoop_eq (lines : List HbaLine) : checkHbaLoop net client lines =
    lines.find? fun hba => hba.checkAddress net client &&
      checkDb client.database client.username hba.databases &&
      checkUser client.username hba.users := by
  induction lines with
  | nil => rfl
  | cons hba lines ih =>
    rw [checkHbaLoop, ih, List.find?_cons]
    cases hba.checkAddress net client <;>
      cases checkDb client.database client.username hba.databases <;>
      cases checkUser client.username hba.users <;> rfl

/-- A stricter test finds the same element exactly if that element passes it. -/
theorem find_eq_iff {α : Type} {p q : α → Bool} (h : ∀ a, p a = true → q a = true) (l : List α) :
    l.find? p = l.find? q ↔ ∀ a, l.find? q = some a → p a = true := by
  refine ⟨fun heq a ha => List.find?_some (heq.trans ha), fun hpass => ?_⟩
  induction l with
  | nil => rfl
  | cons a l ih =>
    by_cases hq : q a = true
    · rw [List.find?_cons_of_pos hq,
        List.find?_cons_of_pos (hpass a (List.find?_cons_of_pos hq))]
    · rw [List.find?_cons_of_neg hq] at hpass ⊢
      rw [List.find?_cons_of_neg fun hp => hq (h a hp), ih hpass]

/-- **`check_hba` takes the first record that names the client exactly if** there are records, and
that one names the client in both lists before it asks for a group. -/
theorem access_decision_iff (lines : List HbaLine) :
    checkHba net client lines = some (lines.find? (HbaLine.names net client)) ↔
      lines ≠ [] ∧ ∀ hba, lines.find? (HbaLine.names net client) = some hba →
        Unshadowed (dbVerdict client.database client.username) hba.databases ∧
          Unshadowed (userVerdict client.username) hba.users := by
  cases lines with
  | nil => simp [checkHba]
  | cons line lines =>
    rw [checkHba, if_neg (by simp), Option.some_inj, checkHbaLoop_eq, find_eq_iff]
    · simp only [ne_eq, reduceCtorEq, not_false_eq_true, true_and, ← checkTokens_iff]
      refine forall₂_congr fun hba hfind => ?_
      have hnames := List.find?_some hfind
      simp only [HbaLine.names, Bool.and_eq_true] at hnames
      simp only [hnames.1.1, checkDb, checkUser, Bool.true_and, Bool.and_eq_true]
    · intro hba htaken
      simp only [Bool.and_eq_true] at htaken
      simp only [HbaLine.names, Bool.and_eq_true]
      exact ⟨⟨htaken.1.1, any_of_checkTokens htaken.1.2⟩, any_of_checkTokens htaken.2⟩

/-- The record `local all +staff,alice` before `local all all`: the first one is to reject `alice`,
and is passed over. -/
theorem group_hides_user :
    let token (string : String) : HbaToken := ⟨ascii string, false⟩
    let line (users : List HbaToken) : HbaLine :=
      ⟨.ctLocal, [token "all"], users, ⟨.unix, []⟩, ⟨.unix, []⟩, .ipCmpAll, none⟩
    let alice : HbaClient := ⟨⟨.unix, []⟩, false, ascii "db", ascii "alice"⟩
    let net : HostNetwork := ⟨fun _ _ => false, fun _ _ => false⟩
    let lines := [line [token "+staff", token "alice"], line [token "all"]]
    lines.find? (HbaLine.names net alice) = some (line [token "+staff", token "alice"]) ∧
      checkHba net alice lines = some (some (line [token "all"])) :=
  ⟨rfl, rfl⟩

end PgBalancer.Auth

import Drawer.Lib.Text

/-! Who may use the device API: the token the server starts with, the header of the basic
scheme that is made of it, and the check of a request. The encoder is the lambda of
`setup_routes`, whose `val` takes in byte after byte and is never masked. -/

namespace Drawer.Server
open Text

/-! ### The header -/

namespace Basic

def table : Bytes := ascii "ABCDEFGHIJKLMNOPQRSTUVWXYZabcdefghijklmnopqrstuvwxyz0123456789+/"

/-- `table[(val >> n) & 0x3F]`. -/
def tableAt (val : Int32) (n : Int) : UInt8 := table.getD ((val >>> Int32.ofInt n) &&& 0x3F).toInt.toNat 0

/-- The variables of the lambda. `valb` stays between -6 and 7. -/
structure State where
  out : Bytes := []
  val : Int32 := 0
  valb : Int := -6

/-- `while (valb >= 0)`. -/
def drain (s : State) : State :=
  if 0 ≤ s.valb then drain { s with out := s.out ++ [tableAt s.val s.valb], valb := s.valb - 6 } else s
termination_by (s.valb + 6).toNat

/-- What the loop does with a byte. -/
def push (s : State) (c : UInt8) : State :=
  drain { s with val := (s.val <<< 8) + Int32.ofNat c.toNat, valb := s.valb + 8 }

def rest (s : State) : Bytes := if -6 < s.valb then s.out ++ [tableAt (s.val <<< 8) (s.valb + 8)] else s.out

/-- `while (out.size() % 4)`. -/
def fill (out : Bytes) : Bytes := if out.length % 4 ≠ 0 then fill (out ++ [61]) else out
termination_by (4 - out.length % 4) % 4

def encode (input : Bytes) : Bytes := fill (rest (input.foldl push {}))

end Basic

def basic (token : Bytes) : Bytes := if token = [] then [] else ascii "Basic " ++ Basic.encode (58 :: token)

/-! ### The check -/

/-- What `start` is given, and what it finds in the environment. -/
structure Start where
  bind : Bytes
  token : Bytes
  envToken : Option Bytes
  production : Bool

def Start.authKey (a : Start) : Bytes := if a.token = [] then a.envToken.getD [] else a.token

def isLoopbackBind (bind : Bytes) : Bool :=
  bind = [] || bind = ascii "127.0.0.1" || bind = ascii "localhost" || bind = ascii "::1"

def Start.allowUnauthLoopback (a : Start) : Bool := a.authKey = [] && isLoopbackBind a.bind && !a.production

/-- Whether `start` goes on to listen. -/
def Start.safe (a : Start) : Bool := !(a.authKey = [] && (a.production || !isLoopbackBind a.bind))

structure Refusal where
  status : Int
  wwwAuthenticate : Bytes
  body : Bytes

def unauthorized : Refusal := ⟨401, ascii "Basic realm=\"\"", ascii "\x7b\"error\":\"unauthorized\"\x7d"⟩

def isHealthPath (path : Bytes) : Bool := path = ascii "/healthz"

def isProtectedPath (path : Bytes) : Bool := if isHealthPath path then false else true

/-- `authorize`, for a path and the value of the `Authorization` header, which is empty where there is none. -/
def Start.authorize (a : Start) (path auth : Bytes) : Except Refusal Unit :=
  if !isProtectedPath path then .ok ()
  else if a.allowUnauthLoopback then .ok ()
  else if a.authKey ≠ [] ∧ (auth = ascii "Bearer " ++ a.authKey ∨ auth = basic a.authKey) then .ok ()
  else .error unauthorized

end Drawer.Server

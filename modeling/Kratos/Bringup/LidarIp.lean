import Mathlib.Data.Rat.Defs

/-!
# Finding the LiDAR

`src/kratos_bringup/launch/lidar_ip.py`: the search for the LiDAR's address in the kernel's
neighbour table. What the search meets is given beforehand: the clock and the table of each round
of its loop (`Poll`). Sockets do not fail to open.
-/

namespace Bringup

/-! ## Python's `str` -/

/-- Where `str.splitlines` splits; `"\r\n"` is one boundary. -/
def isLineBreak (c : Char) : Bool :=
  c ∈ ['\n', '\x0b', '\x0c', '\r', '\x1c', '\x1d', '\x1e', '\u0085', '\u2028', '\u2029']

/-- What `str.split` and `str.strip` take for whitespace. -/
def isSpace (c : Char) : Bool :=
  c ∈ [' ', '\t', '\n', '\x0b', '\x0c', '\r', '\x1c', '\x1d', '\x1e', '\x1f', '\u0085', '\u00a0',
    '\u1680', '\u2028', '\u2029', '\u202f', '\u205f', '\u3000'] ||
  ('\u2000' ≤ c && c ≤ '\u200a')

/-- The lines ahead, with what has been read of the first. -/
def linesFrom (line : List Char) : List Char → List (List Char)
  | [] => if line.isEmpty then [] else [line]
  | '\r' :: '\n' :: cs => line :: linesFrom [] cs
  | c :: cs => if isLineBreak c then line :: linesFrom [] cs else linesFrom (line ++ [c]) cs

def splitlines (s : String) : List String := (linesFrom [] s.toList).map String.ofList

/-- The words ahead, with what has been read of the first. -/
def wordsFrom (word : List Char) : List Char → List (List Char)
  | [] => if word.isEmpty then [] else [word]
  | c :: cs =>
    if isSpace c then
      if word.isEmpty then wordsFrom [] cs else word :: wordsFrom [] cs
    else wordsFrom (word ++ [c]) cs

def split (s : String) : List String := (wordsFrom [] s.toList).map String.ofList

def strip (s : String) : String :=
  String.ofList (((s.toList.dropWhile isSpace).reverse.dropWhile isSpace).reverse)

/-! ## The neighbour table -/

def SUBNET : String := "192.168.1."

def HOST_IP : String := "192.168.1.10"

def KNOWN_UNITS : List String := ["192.168.1.162", "192.168.1.125"]

def CANDIDATES : List String :=
  KNOWN_UNITS ++ ((List.range' 100 100).map fun i => SUBNET ++ toString i).filter (· ∉ KNOWN_UNITS)

/-- The address of a line, if it counts. -/
def reachableLine (candidates : List String) (line : String) : Option String :=
  match split line with
  | ip :: part :: parts =>
    if ip ∉ candidates ∨ ip = HOST_IP then none
    else if "lladdr" ∈ ip :: part :: parts ∧ (part :: parts).getLast? = some "REACHABLE" then some ip
    else none
  | _ => none

def reachableNeighbours (ipNeighOutput : String) (candidates : List String) : List String :=
  (splitlines ipNeighOutput).filterMap (reachableLine candidates)

def pick (hits : List String) : Option String :=
  (KNOWN_UNITS.find? (· ∈ hits)).orElse fun _ => hits.head?

/-! ## The search -/

/-- A round of the loop: the clock at its head, and the table that `_neigh` reads a quarter of a
second later. -/
structure Poll where
  now : ℚ
  table : String
  deriving DecidableEq

/-- The loop: the hits, and the tables that were read. After the last poll the deadline has
passed. -/
def pollUntil (deadline : ℚ) (candidates : List String) : List Poll → List String × List String
  | [] => ([], [])
  | poll :: polls =>
    if poll.now < deadline then
      match reachableNeighbours poll.table candidates with
      | [] =>
        let (hits, tables) := pollUntil deadline candidates polls
        (hits, poll.table :: tables)
      | hit :: hits => (hit :: hits, [poll.table])
    else ([], [])

/-- What is returned, with the addresses that were poked and the tables that were read. -/
structure Search where
  ip : Option String
  poked : List String
  tables : List String
  deriving DecidableEq

/-- `env` is `LIVOX_LIDAR_IP`, and `start` the clock when the loop begins. -/
def findLidarIp (env : Option String) (start : ℚ) (polls : List Poll) (waitS : ℚ := 8)
    (candidates : Option (List String) := none) : Search :=
  let forced := strip (env.getD "")
  if forced ≠ "" then ⟨some forced, [], []⟩
  else
    -- no list and an empty one are both replaced
    let candidates := if candidates.getD [] = [] then CANDIDATES else candidates.getD []
    let (hits, tables) := pollUntil (start + waitS) candidates polls
    ⟨pick hits, candidates, tables⟩

end Bringup

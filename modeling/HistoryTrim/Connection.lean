import HistoryTrim.Database.Relation
import HistoryTrim.Dictionary
import HistoryTrim.Text.Characters
import HistoryTrim.Text.Quoted

/-! # Reaching databases

Addresses of databases, and what opening one does.
-/

/-! ## Database addresses

An address names a file, or memory, and may go on with a question mark and parameters. Bytes can
be written as a percent sign with two hexadecimal digits.
-/

namespace HistoryTrim

/-- Where a database is, and how it is opened. -/
structure Address where
  file : String
  inMemory : Bool := false
  readOnly : Bool := false
  createIfMissing : Bool := false
  /-- The file is known not to change, so it is not written either. -/
  immutable : Bool := false
  /-- Another way to reach files. -/
  fileSystem : Option String := none
  deriving Repr, DecidableEq

inductive AddressError where
  | unknownValue (parameter value : String)
  | unknownParameter (name : String)
  /-- The file name is no text. -/
  | notText (cause : Text.Utf8Fault)
  deriving Repr, DecidableEq

namespace AddressError

def message : AddressError → String
  | unknownValue p v => s!"unknown value {Text.quoted v} for `{p}`"
  | unknownParameter n => s!"unknown query parameter `{n}` while parsing connection URL"
  | notText e => e.message

end AddressError

namespace Address

def hexDigit? (b : UInt8) : Option UInt8 :=
  let n := b.toNat
  if 0x30 ≤ n ∧ n ≤ 0x39 then some (b - 0x30)
  else if 0x41 ≤ n ∧ n ≤ 0x46 then some (b - 0x37)
  else if 0x61 ≤ n ∧ n ≤ 0x66 then some (b - 0x57)
  else none

/-- Put bytes in place of percent signs with two digits. -/
def percentDecoded : List UInt8 → List UInt8
  | [] => []
  | b :: bs =>
    match b == 0x25, bs[0]?.bind hexDigit?, bs[1]?.bind hexDigit? with
    | true, some high, some low => (16 * high + low) :: percentDecoded (bs.drop 2)
    | _, _, _ => b :: percentDecoded bs
termination_by bs => bs.length
decreasing_by all_goals simp only [List.length_drop, List.length_cons]; omega

/-- A text without the same start, however often it stands there. -/
def withoutStart (start : List Char) (cs : List Char) : List Char :=
  if _h : start ≠ [] ∧ start.isPrefixOf cs then withoutStart start (cs.drop start.length) else cs
termination_by cs.length
decreasing_by
  have hpos := List.length_pos_iff.2 _h.1
  have hle := (List.isPrefixOf_iff_prefix.1 _h.2).length_le
  simp only [List.length_drop]
  omega

/-- The parts of some bytes between separators. -/
def splitBytes (separator : UInt8) : List UInt8 → List (List UInt8)
  | [] => [[]]
  | b :: bs =>
    if b = separator then [] :: splitBytes separator bs
    else match splitBytes separator bs with
      | [] => [[b]]
      | p :: ps => (b :: p) :: ps

/-- A name or a value of a parameter; a plus sign stands for a blank. -/
def parameterText (bytes : List UInt8) : String :=
  Text.Utf8.decodeLossy (percentDecoded (bytes.map fun b => if b = 0x2b then 0x20 else b))

def parameters (text : String) : List (String × String) :=
  (splitBytes 0x26 (Text.Utf8.encode text)).filterMap fun part =>
    if part.isEmpty then none
    else
      let name := part.takeWhile (· != 0x3d)
      some (parameterText name, parameterText (part.drop (name.length + 1)))

def withParameter (a : Address) (name value : String) : Except AddressError Address :=
  match name, value with
  | "mode", "ro" => .ok { a with readOnly := true }
  | "mode", "rw" => .ok a
  | "mode", "rwc" => .ok { a with createIfMissing := true }
  | "mode", "memory" => .ok { a with inMemory := true }
  | "cache", "private" => .ok a
  | "cache", "shared" => .ok a
  | "immutable", v =>
    if v = "true" ∨ v = "1" then .ok { a with immutable := true }
    else if v = "false" ∨ v = "0" then .ok { a with immutable := false }
    else .error (.unknownValue name v)
  | "vfs", v => .ok { a with fileSystem := some v }
  | name, v =>
    if name = "mode" ∨ name = "cache" then .error (.unknownValue name v)
    else .error (.unknownParameter name)

/-- An address without parameters. -/
def ofLocation (location : String) : Except AddressError Address :=
  if location = ":memory:" then .ok { file := location, inMemory := true }
  else match Text.Utf8.decode (percentDecoded (Text.Utf8.encode location)) with
    | .ok file => .ok { file }
    | .error e => .error (.notText e)

/-- The address that a text is. -/
def read (text : String) : Except AddressError Address := do
  let cs := withoutStart "sqlite:".toList (withoutStart "sqlite://".toList text.toList)
  let location := cs.takeWhile (· != '?')
  let a ← ofLocation (String.ofList location)
  (parameters (String.ofList (cs.drop (location.length + 1)))).foldlM
    (fun a p => a.withParameter p.1 p.2) a

/-- The address says that the database lives in memory only. -/
def mentionsMemory (text : String) : Bool := Text.occursIn ":memory:".toList text.toList

/-- A text with the parameter that has a missing file created, unless it says how to open. -/
def creating (text : String) : String :=
  if mentionsMemory text || Text.occursIn "mode=".toList text.toList then text
  else if text.contains '?' then text ++ "&mode=rwc"
  else text ++ "?mode=rwc"

end Address

/-! ## Connections

Databases are files of one directory, or live in memory as long as they are open. A file that is
missing is created, unless the address says how to open it.
-/

/-- The databases of a directory under the names of their files. -/
abbrev Directory := Dictionary Database

/-- How many connections there may be, and for how many seconds they last. -/
structure Pool where
  maxConnections : Nat := 10
  idleTimeout : Option Nat := some 600
  maxLifetime : Option Nat := some 1800
  deriving Repr, DecidableEq

/-- The pool for a database in memory: one connection that lasts, so that every caller sees the
    same data. -/
def Pool.forMemory : Pool := { maxConnections := 1, idleTimeout := none, maxLifetime := none }

/-- An open database. -/
structure Connection where
  pool : Pool
  /-- The file of the database, if it has one. -/
  file : Option String
  database : Database

inductive ConnectionError where
  | address (cause : AddressError)
  /-- The name of the file contains a NUL character. -/
  | nulInName
  | engine (cause : Database.EngineError)
  deriving Repr, DecidableEq

namespace ConnectionError

/-- The wording of a name with a NUL character. -/
def nulText : String := "filename passed to SQLite must not contain nul bytes"

def message : ConnectionError → String
  | address e => s!"error with configuration: {e.message}"
  | nulInName => s!"error communicating with database: {nulText}"
  | engine e => e.message

end ConnectionError

namespace Connection

/-- The ways to reach files. -/
def fileSystems : List String := ["unix", "unix-dotfile", "unix-excl", "unix-none", "memdb"]

/-- The name of a file in the directory; nothing for a place outside of it. -/
def localName? (file : String) : Option String :=
  match file.toList with
  | '/' :: _ => none
  | cs =>
    let steps := (cs.splitOn '/').filter fun s => !s.isEmpty && s != ['.']
    match steps, cs.getLast? with
    | [name], some c => if name = ['.', '.'] ∨ c = '/' then none else some (String.ofList name)
    | _, _ => none

/-- The file that a name stands for. A name may be an address of its own, which starts with its
    kind and may name this machine before an absolute path. -/
def targetOf (file : String) : Except Database.EngineError String :=
  match file.toList with
  | 'f' :: 'i' :: 'l' :: 'e' :: ':' :: '/' :: '/' :: cs =>
    let authority := String.ofList (cs.takeWhile (· != '/'))
    if authority.isEmpty ∨ authority = "localhost" then
      .ok (String.ofList (cs.drop authority.length))
    else .error (.invalidAuthority authority)
  | 'f' :: 'i' :: 'l' :: 'e' :: ':' :: cs =>
    let path := String.ofList (cs.takeWhile fun c => c != '?' && c != '#')
    .ok (Text.Utf8.decodeLossy (Address.percentDecoded (Text.Utf8.encode path)))
  | _ => .ok file

def openFile (directory : Directory) (a : Address) (name : String) :
    Except Database.EngineError (Database × Directory) :=
  let protect (db : Database) : Database := { db with writable := !a.readOnly && !a.immutable }
  match directory.get? name with
  | some db => .ok (protect db, directory)
  | none =>
    if a.createIfMissing && !a.readOnly then
      let db : Database := {}
      .ok (protect db, directory.put name db)
    else .error .cannotOpen

/-- Open the database at an address. A name that is empty stands for a database that is nowhere. -/
def openAt (directory : Directory) (a : Address) :
    Except Database.EngineError (Option String × Database × Directory) :=
  match a.fileSystem.filter fun n => n ∉ fileSystems with
  | some n => .error (.noSuchFileSystem n)
  | none =>
    if a.inMemory || a.file.isEmpty || a.fileSystem = some "memdb" then
      .ok (none, { writable := !a.readOnly }, directory)
    else do
      match localName? (← targetOf a.file) with
      | none => throw .cannotOpen
      | some name =>
        let (database, directory) ← openFile directory a name
        return (some name, database, directory)

/-- Open the database that a text is the address of. -/
def connect (directory : Directory) (dsn : String) :
    Except ConnectionError (Connection × Directory) :=
  match Address.read (Address.creating dsn) with
  | .error e => .error (.address e)
  | .ok a =>
    if a.file.contains '\x00' then .error .nulInName
    else match openAt directory a with
      | .error e => .error (.engine e)
      | .ok (file, database, directory) =>
        let pool := if Address.mentionsMemory dsn then Pool.forMemory else {}
        .ok ({ pool, file, database }, directory)

/-- The directory after the database of a connection has changed. -/
def save (c : Connection) (database : Database) (directory : Directory) : Directory :=
  match c.file with
  | none => directory
  | some name => directory.put name { database with writable := true }

end Connection

end HistoryTrim

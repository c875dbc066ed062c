import QueryReplay.Host.Basic

/-!
# Databases of a host

A database is opened by its URL, in memory or in a file; all that open one
file see the same tables. Every statement that a database is asked for counts,
also one that fails. A closed connection fails every statement.
-/

namespace QueryReplay

namespace Host

/-- The host with one more connection to a database. -/
def addBackend (h : Host) (e : Engine) : Nat × Host :=
  (h.backends.length, { h with backends := h.backends ++ [.opened e] })

/-- The host with one more empty database. -/
def addDatabase (h : Host) : Nat × Host :=
  (h.databases.length, { h with databases := h.databases ++ [⟨[], 0⟩] })

/-- The host with another state of a database. -/
def setDatabase (h : Host) (id : Nat) (d : Database) : Host :=
  { h with databases := h.databases.set id d }

/-- What the URLs of databases may start with. -/
def databaseScheme : List Char := "jdbc:sqlite:".toList

/-- The location of a database in memory. -/
def inMemory : String := ":memory:"

/-- The location that a URL between blanks names; without one the database is in memory. -/
def locationOf (url : String) : String :=
  let location := Text.stripped url.toList
  let location := (Text.behind? databaseScheme location).getD location
  if location.isEmpty then inMemory else String.ofList location

/-- Makes the directories that the file of a database lies in. -/
def makeParents (t : FileTree) (location : String) : Except Error Unit × FileTree :=
  match FilePath.parent? location with
  | none => (.ok (), t)
  | some parent =>
    match t.makeDirectories parent with
    | (.ok (), t) => (.ok (), t)
    | (.error fault, t) => (.error (.store parent fault), t)

/-- How many bytes the path of a database file may have. -/
def maxLocationBytes : Nat := 504

/-- Whether a database can be kept in a file at a place. -/
def isLocation (p : Place) : Bool :=
  p.all (fun name => !name.contains '\x00' && name.utf8ByteSize ≤ FilePath.maxNameBytes)
    && decide ((String.join (p.map ("/" ++ ·))).utf8ByteSize ≤ maxLocationBytes)

/-- The number of the database in a file, which is made if it is missing. The directories on the
way are there by then, so dots in the path can be taken by name. -/
def openFile (location : String) (h : Host) : Except Error Nat × Host :=
  match makeParents h.files location with
  | (.error e, files) => (.error e, { h with files })
  | (.ok (), files) =>
    let h := { h with files }
    let place := FilePath.straightened location
    let refused := (.error (.backend (.engine "unable to open database file")), h)
    if isLocation place then
      match files.node? place, h.locations.lookup place with
      | some .directory, _ => refused
      | some (.file _), some id => (.ok id, h)
      | _, _ =>
        let (id, h) := { h with files := files.set place (.file []) }.addDatabase
        (.ok id, { h with locations := (place, id) :: h.locations })
    else refused

/-- The number of the database at a location. Every database in memory is a new one. -/
def openDatabase (location : String) (h : Host) : Except Error Nat × Host :=
  if location = inMemory then
    let (id, h) := h.addDatabase
    (.ok id, h)
  else openFile location h

/-- Opens a connection to the database of a URL. -/
def openUrl (url : String) (h : Host) : Except Error Nat × Host :=
  let location := locationOf url
  match openDatabase location h with
  | (.error e, h) => (.error e, h)
  | (.ok id, h) =>
    let (backend, h) := h.addBackend (.tables id location)
    (.ok backend, h)

/-- The names of the driver for databases of tables. -/
def driverNames : List String := ["sqlite", "org.sqlite.jdbc"]

/-- The text that names a database of the host. -/
def describeBackend (h : Host) (id : Nat) : String :=
  ((h.backends[id]?).map Backend.describe).getD ""

/-- Opens a connection to the database of a URL with the driver of that name between blanks and
in any case. -/
def openBackend (driver url : String) (h : Host) : Except Error Nat × Host :=
  let name := String.ofList (Text.lower (Text.stripped driver.toList))
  if driverNames.contains name then
    match openUrl url h with
    | (.error e, h) => (.error e, h)
    | (.ok id, h) => (.ok id, h.log (.backendOpened (h.describeBackend id)))
  else (.error (.config (.unknownDriver name)), h)

/-- The host with another state of a connection. -/
def setBackend (h : Host) (id : Nat) (b : Backend) : Host :=
  { h with backends := h.backends.set id b }

def database (h : Host) (id : Nat) : Database :=
  (h.databases[id]?).getD ⟨[], 0⟩

/-- Asks a connection for something: of its script, or of its database, which may change. A
connection that is not there, or is closed, fails. -/
def ask {α : Type} (b : Backend) (ofScript : Script → Except BackendFault α)
    (ofDatabase : Database → Except BackendFault α × Database) (h : Host) :
    Except Error α × Host :=
  if b.isClosed then (.error (.backend .closed), h)
  else
    match b.engine with
    | .scripted script => ((ofScript script).mapError .backend, h)
    | .tables id _ =>
      let (outcome, d) := ofDatabase (h.database id)
      (outcome.mapError .backend, h.setDatabase id d)

def askRows (id : Nat) (q : Statement) (parameters : List Value) (h : Host) :
    Except Error ResultCursor × Host :=
  match h.backends[id]? with
  | none => (.error (.backend .closed), h)
  | some b =>
    ask b (·.query q.text parameters) (·.answer q parameters)
      (h.setBackend id { b with queries := b.queries + 1 })

/-- Runs a statement for the number of rows that it changes. -/
def askCount (id : Nat) (q : Statement) (parameters : List Value) (h : Host) :
    Except Error Nat × Host :=
  match h.backends[id]? with
  | none => (.error (.backend .closed), h)
  | some b =>
    ask b (·.execute q.text parameters) (·.apply q parameters)
      (h.setBackend id { b with updates := b.updates + 1 })

def closeBackend (id : Nat) (h : Host) : Host :=
  match h.backends[id]? with
  | none => h
  | some b =>
    let closed := h.setBackend id { b with isClosed := true }
    match b.engine with
    | .tables _ location => if b.isClosed then closed else closed.log (.backendClosed location)
    | .scripted _ => closed

end Host

end QueryReplay

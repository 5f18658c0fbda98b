import Automation.Failure

/-!
Addresses of databases: a scheme, which may name a driver, a host and a path. Only databases in files
and in memory can be opened; for the others there is no driver.
-/
namespace Automation

inductive DatabasePlace where
  | memory
  | file (path : String)
  deriving DecidableEq, Repr, Inhabited

def DatabasePlace.isFile : DatabasePlace → Bool
  | .memory => false
  | .file _ => true

structure DatabaseAddress where
  scheme : String
  host : String
  path : String
  deriving DecidableEq, Repr, Inhabited

namespace DatabaseAddress

/-- What follows the scheme, cut into host and path. A query after the path is left out. -/
def cutHost (rest : List Char) : String × String :=
  let place := rest.takeWhile (· != '?')
  (String.ofList (place.takeWhile (· != '/')),
    String.ofList ((place.dropWhile (· != '/')).drop 1))

def read? (url : String) : Option DatabaseAddress :=
  match url.splitOn "://" with
  | scheme :: first :: more =>
    let (host, path) := cutHost ("://".intercalate (first :: more)).toList
    if scheme = "" then none else some ⟨scheme, host, path⟩
  | _ => none

/-- The drivers by the schemes that ask for them, and the names of those that are absent. -/
def drivers : Fields (Option String) :=
  [("sqlite", none), ("sqlite+pysqlite", none), ("sqlite+aiosqlite", some "aiosqlite"),
    ("sqlite+pysqlcipher", some "sqlcipher3"), ("postgresql", some "psycopg"),
    ("postgresql+psycopg", some "psycopg"), ("postgresql+psycopg2", some "psycopg2"),
    ("postgresql+psycopg2cffi", some "psycopg2cffi"), ("postgresql+asyncpg", some "asyncpg"),
    ("postgresql+pg8000", some "pg8000"), ("mysql", some "MySQLdb"),
    ("mysql+mysqldb", some "MySQLdb"), ("mysql+pymysql", some "pymysql"),
    ("mysql+mysqlconnector", some "mysql"), ("mysql+cymysql", some "cymysql"),
    ("mysql+aiomysql", some "aiomysql"), ("mysql+asyncmy", some "asyncmy"),
    ("mysql+pyodbc", some "pyodbc"), ("mysql+mariadbconnector", some "mariadb")]

def unreadable : Failure :=
  .reported "ArgumentError" "Could not parse SQLAlchemy URL from given URL string"

def noPlugin (scheme : String) : Failure :=
  let name := scheme.replace "+" "."
  .reported "NoSuchModuleError" s!"Can't load plugin: sqlalchemy.dialects:{name}"

def absent (driver : String) : Failure :=
  .reported "ModuleNotFoundError" s!"No module named '{driver}'"

def hosted (url : String) : Failure :=
  .reported "ArgumentError" <| s!"Invalid SQLite URL: {url}\n" ++
    "Valid SQLite URL forms are sqlite:///:memory: or sqlite:////absolute/path/to/file.db"

def locate (url : String) : Except Failure DatabasePlace :=
  match read? url with
  | none => .error unreadable
  | some a =>
    match drivers.get? a.scheme with
    | none => .error (noPlugin a.scheme)
    | some (some driver) => .error (absent driver)
    | some none =>
      if a.host != "" then .error (hosted url)
      else if a.path = "" || a.path = ":memory:" then .ok .memory
      else .ok (.file a.path)

end DatabaseAddress
end Automation

/-!
The room on a stack. A thread has a limited number of places; every call takes one, and so does every list and
mapping that is open while data is read, written or shown. So data may be nested the less deep, the deeper in
the calls it is handled: what was read from a reply may be too deep to be written into a setting. The places
inside a run are counted from a worker that carries out a node; those below the calls of the database, the
service and the journal are rounded.
-/
namespace Automation.Stack

def places : Nat := 1000

/-- The room that is left below so many calls. -/
def below (calls : Nat) : Nat := places - calls

/-- The calls from the beginning of a thread to a node that is carried out. -/
def node : Nat := 9

/-- The calls of the reader of JSON, and of its writer, down to the data. -/
def codec : Nat := 4

/-- Where the client reads the body of a response. -/
def reply : Nat := below (node + 4 + codec)

/-- Where a node reads its headers or its body from a setting. -/
def settingText : Nat := below (node + 3 + codec)

/-- Where an output is written into a setting. -/
def setting : Nat := below (node + 6 + codec)

/-- Where an output is written into a header. -/
def header : Nat := below (node + 8 + codec)

/-- Where a node or the client shows data as text. -/
def shown : Nat := below (node + 4)

/-- Where the database writes a column. -/
def column : Nat := below 40

/-- Where the journal writes a line. -/
def line : Nat := below 40

/-- Where the service reads the body of a request. -/
def request : Nat := below 100

end Automation.Stack

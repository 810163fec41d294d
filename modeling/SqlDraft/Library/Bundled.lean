import SqlDraft.Files

/-!
# The bundled library

One template for each kind of change, on a table of users.
-/

namespace SqlDraft.Library.Bundled

def deleteUser : Text := "DELETE FROM users WHERE user_id = 123;\n"

def insertUser : Text :=
  "INSERT INTO users (first_name, last_name, email) VALUES ('John', 'Doe', 'john@example.com');\n"

def updateEmail : Text := "UPDATE users SET email = 'old@example.com' WHERE user_id = 123;\n"

def updateName : Text := "UPDATE users SET last_name = 'Smith' WHERE user_id = 123;\n"

def updatePhone : Text := "UPDATE users SET phone = '555-0000' WHERE user_id = 123;\n"

def updateStatus : Text := "UPDATE users SET status = 'active' WHERE user_id = 123;\n"

/-- The files of the bundled library, by name. -/
def files : List (Text × Text) :=
  [("delete_user.sql", deleteUser), ("insert_user.sql", insertUser),
    ("update_email.sql", updateEmail), ("update_name.sql", updateName),
    ("update_phone.sql", updatePhone), ("update_status.sql", updateStatus)]

/-- The templates of the bundled library. -/
def templates : List Text := files.map (·.2)

/-- The bundled library as a directory. -/
def tree : Files.Tree :=
  Files.ofFiles (files.map fun (name, text) => (name, .bytes (Text.Utf8.encode text)))

end SqlDraft.Library.Bundled

import SqlDraft.Migration

/-!
# The migrations that come with the service

One file: the table of the audit log.
-/

namespace SqlDraft.Migration.Bundled

def createRequestLogs : Text :=
  "CREATE TABLE IF NOT EXISTS request_logs\n(\n" ++
    "    id        BIGSERIAL PRIMARY KEY,\n" ++
    "    logged_at TIMESTAMPTZ NOT NULL,\n" ++
    "    username  TEXT        NOT NULL,\n" ++
    "    request   TEXT        NOT NULL,\n" ++
    "    script    TEXT        NOT NULL\n);\n\n" ++
    "CREATE INDEX IF NOT EXISTS request_logs_logged_at_idx ON request_logs (logged_at);\n"

/-- The directory of the migrations. -/
def tree : Files.Tree :=
  Files.ofFiles [("001_create_request_logs.sql", .bytes (Text.Utf8.encode createRequestLogs))]

end SqlDraft.Migration.Bundled

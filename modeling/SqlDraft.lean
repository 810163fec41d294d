import SqlDraft.Audit.Pool
import SqlDraft.Audit.Run
import SqlDraft.Chat
import SqlDraft.Database
import SqlDraft.Decode
import SqlDraft.Draft
import SqlDraft.Fault
import SqlDraft.Files
import SqlDraft.Http
import SqlDraft.Intent
import SqlDraft.Issue
import SqlDraft.Json.Reader
import SqlDraft.Json.Value
import SqlDraft.Json.Writer
import SqlDraft.Library
import SqlDraft.Library.Bundled
import SqlDraft.Library.Session
import SqlDraft.Log
import SqlDraft.Log.Setup
import SqlDraft.Main
import SqlDraft.Migration
import SqlDraft.Migration.Bundled
import SqlDraft.Migration.Command
import SqlDraft.Migration.Tables
import SqlDraft.Notice
import SqlDraft.Proofs.Audit.Commits
import SqlDraft.Proofs.Audit.Flush
import SqlDraft.Proofs.Audit.Moves
import SqlDraft.Proofs.Audit.Pending
import SqlDraft.Proofs.Audit.Reports
import SqlDraft.Proofs.Audit.Waiting
import SqlDraft.Proofs.Chat.Replies
import SqlDraft.Proofs.Draft.Extension
import SqlDraft.Proofs.Draft.Matched
import SqlDraft.Proofs.Draft.Order
import SqlDraft.Proofs.Draft.Phrase
import SqlDraft.Proofs.Draft.Shell
import SqlDraft.Proofs.Draft.Shown
import SqlDraft.Proofs.Draft.Stages
import SqlDraft.Proofs.Draft.Target
import SqlDraft.Proofs.Files
import SqlDraft.Proofs.Files.Ways
import SqlDraft.Proofs.Http.Drafts
import SqlDraft.Proofs.Intent
import SqlDraft.Proofs.Intent.Precedence
import SqlDraft.Proofs.Json.Strings
import SqlDraft.Proofs.Keywords
import SqlDraft.Proofs.Library.Bundled
import SqlDraft.Proofs.Library.Reading
import SqlDraft.Proofs.Library.Rows
import SqlDraft.Proofs.Library.Sessions
import SqlDraft.Proofs.Library.Visible
import SqlDraft.Proofs.Migration.Runs
import SqlDraft.Proofs.Migration.Sessions
import SqlDraft.Proofs.Request
import SqlDraft.Proofs.Script
import SqlDraft.Proofs.Service.Answers
import SqlDraft.Proofs.Service.Records
import SqlDraft.Proofs.Service.Surfaces
import SqlDraft.Proofs.Template.Clauses
import SqlDraft.Proofs.Template.Control
import SqlDraft.Proofs.Template.Deletions
import SqlDraft.Proofs.Template.Endings
import SqlDraft.Proofs.Template.Insertions
import SqlDraft.Proofs.Template.Lines
import SqlDraft.Proofs.Template.Parts
import SqlDraft.Proofs.Template.Quoted
import SqlDraft.Proofs.Template.Replacing
import SqlDraft.Proofs.Template.Samples
import SqlDraft.Proofs.Template.Scanning
import SqlDraft.Proofs.Template.SmallLetters
import SqlDraft.Proofs.Template.Stripping
import SqlDraft.Proofs.Template.Terminators
import SqlDraft.Proofs.Template.Updates
import SqlDraft.Proofs.Text.Capitals
import SqlDraft.Proofs.Text.Letters
import SqlDraft.Proofs.Text.Lower
import SqlDraft.Proofs.Text.Pieces
import SqlDraft.Proofs.Text.Search
import SqlDraft.Proofs.Text.SmallLetters
import SqlDraft.Proofs.Text.Spelling
import SqlDraft.Proofs.Text.Trim
import SqlDraft.Proofs.Text.Utf8
import SqlDraft.Proofs.Text.Words
import SqlDraft.Proofs.Values.Announcement
import SqlDraft.Proofs.Values.Order
import SqlDraft.Proofs.Values.Overlap
import SqlDraft.Proofs.Values.Phrase
import SqlDraft.Proofs.Values.Possessive
import SqlDraft.Proofs.Values.Provenance
import SqlDraft.Proofs.Values.Sides
import SqlDraft.Request
import SqlDraft.Script
import SqlDraft.Service
import SqlDraft.Settings
import SqlDraft.Settings.EnvFile
import SqlDraft.Settings.Scalar
import SqlDraft.Settings.Sources
import SqlDraft.Startup
import SqlDraft.Template.Mutation
import SqlDraft.Template.Parts
import SqlDraft.Template.Pattern
import SqlDraft.Template.Transaction
import SqlDraft.Text.Basic
import SqlDraft.Text.Blank
import SqlDraft.Text.Case
import SqlDraft.Text.CaseRanges
import SqlDraft.Text.Newline
import SqlDraft.Text.Quoted
import SqlDraft.Text.Ranges
import SqlDraft.Text.UnprintableRanges
import SqlDraft.Text.Utf8
import SqlDraft.Text.Word
import SqlDraft.Text.WordRanges
import SqlDraft.Values
import SqlDraft.Values.Extract

import TableLexer.Files.Tree
import TableLexer.Main
import TableLexer.Proofs.Families
import TableLexer.Proofs.Tables
import TableLexer.Proofs.Places
import TableLexer.Proofs.Reference
import TableLexer.Proofs.Attempts
import TableLexer.Proofs.Lexemes
import TableLexer.Proofs.Recognition
import TableLexer.Proofs.Scans
import TableLexer.Proofs.Reconstruction
import TableLexer.Proofs.Concatenation
import TableLexer.Proofs.Layout
import TableLexer.Proofs.Agreement
import TableLexer.Proofs.Calls
import TableLexer.Proofs.Findings
import TableLexer.Proofs.Cursors
import TableLexer.Proofs.Stability
import TableLexer.Proofs.Classification
import TableLexer.Proofs.Nesting
import TableLexer.Proofs.Relabelling
import TableLexer.Proofs.Delivery
import TableLexer.Proofs.Lines
import TableLexer.Proofs.Origins
import TableLexer.Proofs.Names
import TableLexer.Proofs.Refusal
import TableLexer.Proofs.LineComments
import TableLexer.Proofs.FirstLine
import TableLexer.Proofs.Blanks
import TableLexer.Proofs.Excerpts
import TableLexer.Proofs.Reports
import TableLexer.Proofs.DumpLines
import TableLexer.Proofs.JsonReading
import TableLexer.Proofs.Records
import TableLexer.Proofs.Progress
import TableLexer.Proofs.Listing
import TableLexer.Proofs.Reachable
import TableLexer.Proofs.Conservation

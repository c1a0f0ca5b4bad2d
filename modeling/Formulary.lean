import Formulary.Main
import Formulary.Office
import Formulary.Office.Listing
import Formulary.Office.Search
import Formulary.Json.Form.Office
import Formulary.Proofs.Form.Fillable
import Formulary.Proofs.Template.Substitution
import Formulary.Proofs.Office.Freezing
import Formulary.Proofs.Office.Viewing
import Formulary.Proofs.Office.Isolation
import Formulary.Proofs.Office.Ranks
import Formulary.Proofs.Office.History
import Formulary.Proofs.Office.Provenance
import Formulary.Proofs.Office.Searching
import Formulary.Proofs.Office.Authorship
import Formulary.Proofs.CommandLine.Rendering
import Formulary.Proofs.Office.Refilling
import Formulary.Proofs.Office.Promotion
import Formulary.Proofs.Office.Reviewing
import Formulary.Proofs.Json.Record
import Formulary.Proofs.Json.Description
import Formulary.Proofs.Office.InPlace
import Formulary.Proofs.Office.Secrecy
import Formulary.Proofs.Office.Interference
import Formulary.Proofs.Template.Scanning
import Formulary.Proofs.Template.Capturing
import Formulary.Proofs.Template.Writing
import Formulary.Proofs.Form.Outcome
import Formulary.Proofs.Form.Dates
import Formulary.Proofs.Form.DatesApart
import Formulary.Proofs.Form.Address
import Formulary.Proofs.Office.Dashboard
import Formulary.Proofs.Office.Activity
import Formulary.Proofs.Office.Queries
import Formulary.Proofs.Form.Submission
import Formulary.Proofs.CommandLine.Extraction
import Formulary.Proofs.CommandLine.Numbers

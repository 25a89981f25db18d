import TypedQuery.Main
import TypedQuery.Proofs.Database.Calls
import TypedQuery.Proofs.Database.Literal
import TypedQuery.Proofs.Draft.Denotation
import TypedQuery.Proofs.Draft.Exchange
import TypedQuery.Proofs.Engine.Looking
import TypedQuery.Proofs.Engine.Pressure
import TypedQuery.Proofs.Reference.Parsing
import TypedQuery.Proofs.Row.OrderedMap
import TypedQuery.Proofs.Row.Totals
import TypedQuery.Proofs.Schema.Registration
import TypedQuery.Proofs.Sql.Faithful
import TypedQuery.Proofs.Sql.Placeholders
import TypedQuery.Proofs.Sql.Window
import TypedQuery.Proofs.Workload.Accounting
import TypedQuery.Schema.Json
import TypedQuery.Settings.Load

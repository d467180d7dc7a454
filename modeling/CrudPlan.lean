import CrudPlan.Main
import CrudPlan.Proofs.CommandLine
import CrudPlan.Proofs.Request.Acceptance
import CrudPlan.Proofs.Request.Args
import CrudPlan.Proofs.Request.LookAhead
import CrudPlan.Proofs.Request.MemberOrder
import CrudPlan.Proofs.Request.Serialization
import CrudPlan.Proofs.Schema.Blame
import CrudPlan.Proofs.Schema.Extension
import CrudPlan.Proofs.Service.Operation
import CrudPlan.Proofs.Service.Rendering
import CrudPlan.Proofs.Sql.Constants
import CrudPlan.Proofs.Sql.Positions
import CrudPlan.Proofs.Sql.Quoting
import CrudPlan.Proofs.Sql.Related
import CrudPlan.Proofs.Sql.Search
import CrudPlan.Proofs.Sql.Total

import CypherPages.Main
import CypherPages.Proofs.Build.Calls
import CypherPages.Proofs.Build.Options
import CypherPages.Proofs.Build.PublishedText
import CypherPages.Proofs.Build.ReadBack
import CypherPages.Proofs.Build.Slug
import CypherPages.Proofs.CommandLine.Filter
import CypherPages.Proofs.CommandLine.RunPage
import CypherPages.Proofs.Page.Config
import CypherPages.Proofs.Page.Discovery
import CypherPages.Proofs.Query.Connections
import CypherPages.Proofs.Query.Shape
import CypherPages.Proofs.Run.Calls
import CypherPages.Proofs.Run.FurtherControls
import CypherPages.Proofs.Run.Rerun
import CypherPages.Proofs.Session.ReadAgain

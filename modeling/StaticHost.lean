import StaticHost.Main
import StaticHost.StyleTable
import StaticHost.Proofs.SettingsFile
import StaticHost.Proofs.StylesheetLinks
import StaticHost.Proofs.SiteBuild
import StaticHost.Proofs.MarkupReader
import StaticHost.Proofs.ViewEvents
import StaticHost.Proofs.FailedBuild
import StaticHost.Proofs.CommandGrammar
import StaticHost.Proofs.CommandLevels
import StaticHost.Proofs.CommandParse
import StaticHost.Proofs.JsonGrammar
import StaticHost.Proofs.JsonScanning
import StaticHost.Proofs.JsonValues
import StaticHost.Proofs.JsonRecords
import StaticHost.Proofs.SettingsText
import StaticHost.Proofs.ProgramRuns
import StaticHost.Proofs.StyleTableOrder
import StaticHost.Proofs.BuildObstacles
import StaticHost.Proofs.Rebuild
import StaticHost.Proofs.PageNames
import StaticHost.Proofs.QuotedText
import StaticHost.Proofs.ManifestText

import KeyJoin.Main
import KeyJoin.Proofs.ScriptFixedPoint
import KeyJoin.Proofs.SimulationRun
import KeyJoin.Proofs.EngineScans
import KeyJoin.Proofs.NoRowsIndicator
import KeyJoin.Proofs.StatementRoutes
import KeyJoin.Proofs.FurtherSelects
import KeyJoin.Proofs.JsonReports
import KeyJoin.Proofs.TableCells
import KeyJoin.Proofs.WrittenTables
import KeyJoin.Proofs.ResolutionByKinds
import KeyJoin.Proofs.StatementMargins
import KeyJoin.Proofs.SameQuestion
import KeyJoin.Proofs.CommandWords
import KeyJoin.Proofs.NameSpelling
import KeyJoin.Proofs.RestatedQuery
import KeyJoin.Proofs.JoinedRows
import KeyJoin.Proofs.SplitTables
import KeyJoin.Proofs.EngineInputs
import KeyJoin.Proofs.ResolvedItems
import KeyJoin.Proofs.ExchangedSides
import KeyJoin.Proofs.TableTexts
import KeyJoin.Proofs.LineClasses
import KeyJoin.Proofs.Suggestions
import KeyJoin.Proofs.KeyConditions
import KeyJoin.Proofs.PrintedCommaJoins
import KeyJoin.Proofs.ColumnLists
import KeyJoin.Proofs.TokenSpans
import KeyJoin.Proofs.SettingsLayers

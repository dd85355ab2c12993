import PluginManual.CommandLine
import PluginManual.Main
import PluginManual.Proofs.Contents
import PluginManual.Proofs.Exchange
import PluginManual.Proofs.FailFast
import PluginManual.Proofs.Locality
import PluginManual.Proofs.Reading
import PluginManual.Proofs.Rerun
import PluginManual.Proofs.Anchors
import PluginManual.Proofs.Links
import PluginManual.Proofs.HeadingLines
import PluginManual.Proofs.FencedCode
import PluginManual.Proofs.ByteScan
import PluginManual.Proofs.Annotations
import PluginManual.Proofs.ClassHeads
import PluginManual.Proofs.Optional
import PluginManual.Proofs.Ancestors
import PluginManual.Proofs.ListComments
import PluginManual.Proofs.Location
import PluginManual.Proofs.Parameters
import PluginManual.Proofs.Notes
import PluginManual.Proofs.Tables
import PluginManual.Proofs.HelpLines
import PluginManual.Proofs.LineForLine
import PluginManual.Proofs.SetupBlock
import PluginManual.Proofs.DefaultTable
import PluginManual.Proofs.HelpTags
import PluginManual.Proofs.Attempts
import PluginManual.Proofs.Settling
import PluginManual.Proofs.HelpLayout

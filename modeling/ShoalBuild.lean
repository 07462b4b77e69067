import ShoalBuild.World
import ShoalBuild.Command
import ShoalBuild.Text
import ShoalBuild.Steps
import ShoalBuild.Pipeline
import ShoalBuild.Effects
import ShoalBuild.Matrix
import ShoalBuild.Artifacts
import ShoalBuild.Verdict
import ShoalBuild.Record
import ShoalBuild.Clean
import ShoalBuild.Main
import ShoalBuild.Plan
import ShoalBuild.Output
import ShoalBuild.Smoke.Client
import ShoalBuild.Smoke.Exchange
import ShoalBuild.Smoke.Session
import ShoalBuild.Smoke.Conformance

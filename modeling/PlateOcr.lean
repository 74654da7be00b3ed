import PlateOcr.Python.Values
import PlateOcr.Config.Parse
import PlateOcr.Labels.Codec
import PlateOcr.Engine.Forward
import PlateOcr.Engine.Eval
import PlateOcr.Engine.Step
import PlateOcr.Engine.Gradient
import PlateOcr.Engine.Train
import PlateOcr.Artifact.Predict
import PlateOcr.Artifact.Npz
import PlateOcr.Pipeline.Training
import PlateOcr.Pipeline.Evaluation
import PlateOcr.Sdk.Http
import PlateOcr.Sdk.Experiments
